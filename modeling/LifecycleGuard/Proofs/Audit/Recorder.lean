import LifecycleGuard.Audit.Recorder
import LifecycleGuard.Proofs.Work.Run

/-!
# What a recorder does to the work

A recorder works in pieces between which host code may run.  Each piece has one equation here,
which says what it answers and what has become of the work; the events that it reports are left
open.

* `persisted` — an entry is checked and then handed to the store.  `Store.receive` says the same
  of the media alone.
* `commit_of_none`, `commit_of_other`, `commit_of_some` — the three cases of a commit.
* `park_apply` and `conclude_apply` — the last pieces of `begin` and of `record`, after the message
  was composed.
* `begin_of_none`, `begin_of_some` and `record_of_none`, `record_of_some` — whole captures, where a
  declaration applies and where none does.
* `captures_of_audits` and `ignores_of_not_audits` — what is captured of an entity, and where.
-/

namespace LifecycleGuard

/-- What comes of an entry that a recorder persists, and what it leaves on the media. -/
def Store.receive (s : Store) (e : AuditEntry) (m : Media) :
    Except AuditError (Option AuditEntry) × Media :=
  match e.missingField? with
  | some field => (.error (.invalid (AuditEntry.missingMessage field)), m)
  | none => ((s.save e m).1.map fun _ => some e, (s.save e m).2)

namespace Recorder

variable {μ : Type} (r : Recorder μ)

/-- An entry is persisted as the store receives it. -/
theorem persisted (e : AuditEntry) (w : Work) :
    ∃ events, (r.persist e >>= fun saved => (pure (some <$> saved) : Run _)) w
      = (.ok (r.store.receive e w.media).1,
        { w with media := (r.store.receive e w.media).2, events }) := by
  simp only [persist, Store.receive]
  cases e.missingField? with
  | some field => exact ⟨_, rfl⟩
  | none =>
      have hmedia : Run.onMedia (r.store.save e) w
          = (.ok (r.store.save e w.media).1, { w with media := (r.store.save e w.media).2 }) := rfl
      simp only [Run.bind_assoc]
      rw [Run.bind_of_ok hmedia]
      cases (r.store.save e w.media).1 with
      | error error => exact ⟨_, rfl⟩
      | ok _ => exact ⟨_, rfl⟩

theorem commit_of_none {a : Action} (subject : Entity) {w : Work}
    (h : w.context.inFlight.get? r.entityType = none) :
    r.commit a subject w = (.ok (.ok none), w) := by
  rw [commit, Run.context_bind, h]
  rfl

theorem commit_of_other {a : Action} (subject : Entity) {w : Work} {e : AuditEntry}
    (h : w.context.inFlight.get? r.entityType = some e) (ha : e.action ≠ a) :
    ∃ events, r.commit a subject w = (.ok (.ok none), { w with events }) := by
  rw [commit, Run.context_bind, h]
  simp only [if_pos ha]
  exact ⟨_, rfl⟩

theorem commit_of_some {a : Action} (subject : Entity) {w : Work} {e : AuditEntry}
    (h : w.context.inFlight.get? r.entityType = some e) (ha : e.action = a) :
    ∃ events, r.commit a subject w
      = (.ok (r.store.receive (e.finished subject w.now) w.media).1,
        { w.change (fun c => c.release r.entityType) with
          media := (r.store.receive (e.finished subject w.now) w.media).2, events }) := by
  obtain ⟨events, hpersist⟩ := r.persisted (e.finished subject w.now)
    (w.change fun c => c.release r.entityType)
  refine ⟨events, ?_⟩
  rw [commit, Run.context_bind, h]
  simp only [ne_eq, ha, not_true_eq_false, if_false]
  exact hpersist

/-- A commit gives a result, whatever it finds. -/
theorem fst_commit (a : Action) (subject : Entity) (w : Work) :
    ∃ x, (r.commit a subject w).1 = .ok x := by
  cases he : w.context.inFlight.get? r.entityType with
  | none => exact ⟨_, congrArg Prod.fst (r.commit_of_none subject he)⟩
  | some e =>
      by_cases ha : e.action = a
      · obtain ⟨events, hcommit⟩ := r.commit_of_some subject he ha
        exact ⟨_, congrArg Prod.fst hcommit⟩
      · obtain ⟨events, hcommit⟩ := r.commit_of_other subject he ha
        exact ⟨_, congrArg Prod.fst hcommit⟩

theorem park_apply (d : AuditDeclaration μ) (a : Action) (subject : Entity) (actor : Option Actor)
    (message : Option String) (w : Work) :
    ∃ events, r.park d a subject actor message w
      = (.ok (), { w.change (fun c => c.hold r.entityType
            (.unfinished (.ofSerial w.serial) w.now a subject actor
              (d.filter.apply subject.changes) message)) with
          events, serial := w.serial + 1 }) := by
  have hpark : r.park d a subject actor message w
      = Run.hold r.entityType (.unfinished (.ofSerial w.serial) w.now a subject actor
          (d.filter.apply subject.changes) message)
        { w with
          events := w.events ++ [.holdingEntry a r.entityType (.ofSerial w.serial)]
          serial := w.serial + 1 } := rfl
  rw [hpark]
  obtain ⟨events, hhold⟩ := Run.hold_apply r.entityType
    (.unfinished (.ofSerial w.serial) w.now a subject actor (d.filter.apply subject.changes)
      message)
    { w with
      events := w.events ++ [.holdingEntry a r.entityType (.ofSerial w.serial)]
      serial := w.serial + 1 }
  exact ⟨events, hhold⟩

theorem conclude_apply (subject : Entity) (actor : Option Actor) (message : Option String)
    (w : Work) :
    ∃ events, r.conclude subject actor message w
      = (.ok (r.store.receive (.found (.ofSerial w.serial) w.now subject actor message)
          w.media).1,
        { w with
          media := (r.store.receive (.found (.ofSerial w.serial) w.now subject actor message)
            w.media).2,
          events, serial := w.serial + 1 }) :=
  r.persisted _ { w with serial := w.serial + 1 }

/-! ## Whole captures -/

/-- The declaration that applies to an action on an entity in a context. -/
def applicable? (a : Action) (subject : Entity) (c : Context) : Option (AuditDeclaration μ) :=
  if r.bypassed subject c then none else r.book.declaration? a

/-- The declaration that applies is the one in the book. -/
theorem declaration_of_applicable {a : Action} {subject : Entity} {c : Context}
    {d : AuditDeclaration μ} (h : r.applicable? a subject c = some d) :
    r.book.declaration? a = some d := by
  unfold applicable? at h
  split at h
  · cases h
  · exact h

theorem activeDeclaration_of_none {a : Action} {subject : Entity} {w : Work}
    (h : r.applicable? a subject w.context = none) :
    ∃ events, r.activeDeclaration? a subject w = (.ok none, { w with events }) := by
  rw [activeDeclaration?, Run.context_bind]
  unfold applicable? at h
  cases hb : r.bypassed subject w.context with
  | true => exact ⟨_, rfl⟩
  | false =>
      rw [hb] at h
      have hnone : r.book.declaration? a = none := h
      rw [hnone]
      exact ⟨w.events, rfl⟩

theorem activeDeclaration_of_some {a : Action} {subject : Entity} {w : Work}
    {d : AuditDeclaration μ} (h : r.applicable? a subject w.context = some d) :
    r.activeDeclaration? a subject w = (.ok (some d), w) := by
  rw [activeDeclaration?, Run.context_bind]
  unfold applicable? at h
  cases hb : r.bypassed subject w.context with
  | true => simp [hb] at h
  | false =>
      rw [hb] at h
      have hsome : r.book.declaration? a = some d := h
      rw [hsome]
      rfl

/-- Where no declaration applies, a mutation is not captured. -/
theorem begin_of_none {a : Action} {subject : Entity} {w : Work}
    (h : r.applicable? a subject w.context = none) :
    ∃ events, ∀ compose, r.begin compose a subject w = (.ok (), { w with events }) := by
  obtain ⟨events, hnone⟩ := r.activeDeclaration_of_none h
  cases ha : a.isMutation with
  | false =>
      refine ⟨w.events, fun compose => ?_⟩
      rw [begin, ha]
      rfl
  | true =>
      refine ⟨events, fun compose => ?_⟩
      rw [begin, ha]
      exact Run.bind_of_ok hnone _

/-- Where no declaration applies, a find is not recorded. -/
theorem record_of_none {subject : Entity} {w : Work}
    (h : r.applicable? .find subject w.context = none) :
    ∃ events, ∀ compose, r.record compose subject w = (.ok (.ok none), { w with events }) := by
  obtain ⟨events, hnone⟩ := r.activeDeclaration_of_none h
  exact ⟨events, fun compose => Run.bind_of_ok hnone _⟩

variable (compose : μ → Entity → Option Actor → Run String)

/-- Where a declaration applies, its message is composed and the capture put in flight. -/
theorem begin_of_some {a : Action} {subject : Entity} {w : Work} {d : AuditDeclaration μ}
    (ha : a.isMutation = true) (h : r.applicable? a subject w.context = some d) :
    r.begin compose a subject w
      = (composed compose d.message subject w.context.actor >>= fun message =>
          r.park d a subject w.context.actor message) w := by
  rw [begin, ha]
  exact Run.bind_of_ok (r.activeDeclaration_of_some h) _

/-- Where a declaration applies, its message is composed and the find persisted. -/
theorem record_of_some {subject : Entity} {w : Work} {d : AuditDeclaration μ}
    (h : r.applicable? .find subject w.context = some d) :
    r.record compose subject w
      = (composed compose d.message subject w.context.actor >>= fun message =>
          r.conclude subject w.context.actor message) w :=
  Run.bind_of_ok (r.activeDeclaration_of_some h) _

/-- What message rules say depends on what they are asked about only, and none of them fails. -/
def Composes (compose : μ → Entity → Option Actor → Run String)
    (text : μ → Entity → Option Actor → String) : Prop :=
  ∀ m subject actor w, (compose m subject actor w).1 = .ok (text m subject actor)

omit r in
theorem fst_composed {text : μ → Entity → Option Actor → String} (h : Composes compose text)
    (message : Option μ) (subject : Entity) (actor : Option Actor) (w : Work) :
    (composed compose message subject actor w).1
      = .ok (message.map fun m => text m subject actor) := by
  cases message with
  | none => rfl
  | some m =>
      have hm : (Run.within .enforcement (compose m subject actor) w).1
          = .ok (text m subject actor) := h m subject actor (w.entering .enforcement)
      rw [composed, Run.bind_of_fst hm]
      rfl

variable {compose} in
/-- A mutation to which a declaration applies is in flight with what passes its filter, and with
its message. -/
theorem begin_captures {text : μ → Entity → Option Actor → String} (h : Composes compose text)
    {a : Action} {subject : Entity} {w : Work} {d : AuditDeclaration μ}
    (ha : a.isMutation = true) (hd : r.applicable? a subject w.context = some d) :
    (r.begin compose a subject w).1 = .ok () ∧
    ∃ id now, (r.begin compose a subject w).2.context.inFlight.get? r.entityType
      = some (.unfinished id now a subject w.context.actor (d.filter.apply subject.changes)
          (d.message.map fun m => text m subject w.context.actor)) := by
  rw [r.begin_of_some compose ha hd,
    Run.bind_of_fst (fst_composed compose h d.message subject w.context.actor w)]
  generalize (composed compose d.message subject w.context.actor w).2 = w₁
  obtain ⟨events, hpark⟩ := r.park_apply d a subject w.context.actor
    (d.message.map fun m => text m subject w.context.actor) w₁
  rw [hpark]
  refine ⟨rfl, .ofSerial w₁.serial, w₁.now, ?_⟩
  show (w₁.change fun c => c.hold r.entityType (.unfinished (.ofSerial w₁.serial) w₁.now a subject
    w.context.actor (d.filter.apply subject.changes) _)).context.inFlight.get? r.entityType = _
  rw [Work.context_change]
  exact (SortedMap.get?_insert ..).trans (if_pos rfl)

variable {compose} in
/-- A find to which a declaration applies is persisted with its message, on the media that the
composing of the message has left. -/
theorem record_persists {text : μ → Entity → Option Actor → String} (h : Composes compose text)
    {subject : Entity} {w : Work} {d : AuditDeclaration μ}
    (hd : r.applicable? .find subject w.context = some d) :
    let m := (composed compose d.message subject w.context.actor w).2.media
    ∃ id now, ∃ e : AuditEntry, e = .found id now subject w.context.actor
        (d.message.map fun m => text m subject w.context.actor) ∧
      (r.record compose subject w).1 = .ok (r.store.receive e m).1 ∧
      (r.record compose subject w).2.media = (r.store.receive e m).2 := by
  intro m
  rw [r.record_of_some compose hd,
    Run.bind_of_fst (fst_composed compose h d.message subject w.context.actor w)]
  obtain ⟨events, hconclude⟩ := r.conclude_apply subject w.context.actor
    (d.message.map fun m => text m subject w.context.actor)
    (composed compose d.message subject w.context.actor w).2
  rw [hconclude]
  exact ⟨.ofSerial _, _, _, rfl, rfl, rfl⟩

/-! ## Where captures are made -/

/-- Nothing keeps a recorder from capturing what is declared of an entity. -/
structure Audits (subject : Entity) (c : Context) : Prop where
  enabled : r.enabled = true
  enforcing : c.enforcing = true
  auditing : c.auditing = true
  type : SortedSet.mem c.auditOff r.entityType = false
  subjectType : SortedSet.mem c.auditOff subject.type = false

theorem audits_iff (subject : Entity) (c : Context) :
    r.Audits subject c ↔ r.bypassed subject c = false := by
  constructor
  · intro ⟨henabled, henforcing, hauditing, htype, hsubject⟩
    simp [bypassed, Context.isAuditBypassed, henabled, henforcing, hauditing, htype, hsubject]
  · intro h
    simp only [bypassed, Context.isAuditBypassed, Bool.or_eq_false_iff, Bool.not_eq_false'] at h
    obtain ⟨⟨henabled, ⟨henforcing, hauditing⟩, htype⟩, -, hsubject⟩ := h
    exact ⟨henabled, henforcing, hauditing, htype, hsubject⟩

/-- What is declared of an entity is captured: a mutation is put in flight, and a find persisted,
with the message that was composed.  The find is persisted on the media that the composing of its
message has left. -/
structure Captures (text : μ → Entity → Option Actor → String) (subject : Entity) (w : Work) :
    Prop where
  begun : ∀ a d, a.isMutation = true → r.book.declaration? a = some d →
    (r.begin compose a subject w).1 = .ok () ∧
    ∃ id now, (r.begin compose a subject w).2.context.inFlight.get? r.entityType
      = some (.unfinished id now a subject w.context.actor (d.filter.apply subject.changes)
          (d.message.map fun m => text m subject w.context.actor))
  recorded : ∀ d, r.book.declaration? .find = some d →
    let m := (composed compose d.message subject w.context.actor w).2.media
    ∃ id now, ∃ e : AuditEntry, e = .found id now subject w.context.actor
        (d.message.map fun m => text m subject w.context.actor) ∧
      (r.record compose subject w).1 = .ok (r.store.receive e m).1 ∧
      (r.record compose subject w).2.media = (r.store.receive e m).2

/-- Nothing of an entity is captured, whatever is declared of it. -/
structure Ignores (subject : Entity) (w : Work) : Prop where
  begun : ∀ a, (r.begin compose a subject w).1 = .ok () ∧
    (r.begin compose a subject w).2.toWorld = w.toWorld
  recorded : (r.record compose subject w).1 = .ok (.ok none) ∧
    (r.record compose subject w).2.toWorld = w.toWorld

variable {compose} in
theorem captures_of_audits {text : μ → Entity → Option Actor → String} (h : Composes compose text)
    {subject : Entity} {w : Work} (hw : r.Audits subject w.context) :
    r.Captures compose text subject w := by
  have happlicable : ∀ a, r.applicable? a subject w.context = r.book.declaration? a := fun a => by
    rw [applicable?, (r.audits_iff subject w.context).mp hw]
    rfl
  exact ⟨fun a d ha hd => r.begin_captures h ha ((happlicable a).trans hd),
    fun d hd => r.record_persists h ((happlicable .find).trans hd)⟩

theorem ignores_of_not_audits {subject : Entity} {w : Work} (hw : ¬ r.Audits subject w.context) :
    r.Ignores compose subject w := by
  have hnone : ∀ a, r.applicable? a subject w.context = none := fun a => by
    rw [audits_iff, Bool.not_eq_false] at hw
    rw [applicable?, if_pos hw]
  refine ⟨fun a => ?_, ?_⟩
  · obtain ⟨events, hbegin⟩ := r.begin_of_none (hnone a)
    rw [hbegin compose]
    exact ⟨rfl, rfl⟩
  · obtain ⟨events, hrecord⟩ := r.record_of_none (hnone .find)
    rw [hrecord compose]
    exact ⟨rfl, rfl⟩

end Recorder

end LifecycleGuard
