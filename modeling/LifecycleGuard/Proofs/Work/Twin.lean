import LifecycleGuard.Proofs.Audit.Recorder
import LifecycleGuard.Proofs.Permission.Congruence

/-!
# Work that does not look beyond its context

The same work may be done at two times, among different other contexts and on a store that already
holds other entries.  `Run.Twin` says that it comes to the same.

**What is the same.**  Identifiers and times differ between any two times, so entries are compared
by `AuditEntry.content` and contexts by `Context.Alike`.  Everything else that a run looks at is its
context.

**What a twin leaves alone.**  `Work.Extended` says that a run changes no context but the current
one, and that it only ever appends to the store.

**Putting together.**  Twins are put together to twins by every means to put runs together.  They
are a `Run.Simulation` for contexts that are alike, so checks are twins where predicates are; and
`twin_begin`, `twin_commit` and `twin_record` say it of captures.
-/

namespace LifecycleGuard

/-- What an entry says, apart from its identifier and its time. -/
def AuditEntry.content (e : AuditEntry) : AuditEntry :=
  { e with id := .ofSerial 0, createdAt := .epoch }

/-- Contexts that differ in the identifiers and times of what is in flight, if at all. -/
structure Context.Alike (c c' : Context) : Prop where
  actor : c.actor = c'.actor
  enforcing : c.enforcing = c'.enforcing
  auditing : c.auditing = c'.auditing
  securityOff : c.securityOff = c'.securityOff
  auditOff : c.auditOff = c'.auditOff
  inFlight : ∀ type, (c.inFlight.get? type).map AuditEntry.content
    = (c'.inFlight.get? type).map AuditEntry.content

namespace Context.Alike

variable {c c' : Context}

theorem refl (c : Context) : Alike c c := ⟨rfl, rfl, rfl, rfl, rfl, fun _ => rfl⟩

theorem isSecurityBypassed (h : Alike c c') (type : String) :
    c.isSecurityBypassed type = c'.isSecurityBypassed type := by
  rw [Context.isSecurityBypassed, Context.isSecurityBypassed, h.enforcing, h.securityOff]

theorem isAuditBypassed (h : Alike c c') (type : String) :
    c.isAuditBypassed type = c'.isAuditBypassed type := by
  rw [Context.isAuditBypassed, Context.isAuditBypassed, h.enforcing, h.auditing, h.auditOff]

theorem hasInFlight (h : Alike c c') (type : String) :
    c.hasInFlight type = c'.hasInFlight type := by
  have hsome := congrArg Option.isSome (h.inFlight type)
  rw [Option.isSome_map, Option.isSome_map] at hsome
  exact hsome

theorem withActor (h : Alike c c') (a : Option Actor) : Alike (c.withActor a) (c'.withActor a) :=
  ⟨rfl, h.enforcing, h.auditing, h.securityOff, h.auditOff, h.inFlight⟩

theorem hold (h : Alike c c') (type : String) {e e' : AuditEntry} (he : e.content = e'.content) :
    Alike (c.hold type e) (c'.hold type e') := by
  refine ⟨h.actor, h.enforcing, h.auditing, h.securityOff, h.auditOff, fun t => ?_⟩
  show ((c.inFlight.insert type e).get? t).map _ = ((c'.inFlight.insert type e').get? t).map _
  rw [SortedMap.get?_insert, SortedMap.get?_insert]
  split
  · exact congrArg some he
  · exact h.inFlight t

theorem release (h : Alike c c') (type : String) : Alike (c.release type) (c'.release type) := by
  refine ⟨h.actor, h.enforcing, h.auditing, h.securityOff, h.auditOff, fun t => ?_⟩
  show ((c.inFlight.erase type).get? t).map _ = ((c'.inFlight.erase type).get? t).map _
  rw [SortedMap.get?_erase, SortedMap.get?_erase]
  split
  · rfl
  · exact h.inFlight t

/-- Entering a scope leaves the same mark. -/
theorem enter (h : Alike c c') (s : Scope) :
    (s.enter c).1 = (s.enter c').1 ∧ Alike (s.enter c).2 (s.enter c').2 := by
  obtain ⟨hactor, henforcing, hauditing, hsecurity, haudit, hflight⟩ := h
  cases s with
  | enforcement => exact ⟨henforcing, hactor, rfl, hauditing, hsecurity, haudit, hflight⟩
  | audit => exact ⟨hauditing, hactor, henforcing, rfl, hsecurity, haudit, hflight⟩
  | securityOf type =>
      simp only [Scope.enter, hsecurity]
      exact ⟨trivial, hactor, henforcing, hauditing, rfl, haudit, hflight⟩
  | auditOf type =>
      simp only [Scope.enter, haudit]
      exact ⟨trivial, hactor, henforcing, hauditing, hsecurity, rfl, hflight⟩

theorem leave (h : Alike c c') (s : Scope) (mark : Bool) :
    Alike (s.leave mark c) (s.leave mark c') := by
  obtain ⟨hactor, henforcing, hauditing, hsecurity, haudit, hflight⟩ := h
  cases s with
  | enforcement => exact ⟨hactor, rfl, hauditing, hsecurity, haudit, hflight⟩
  | audit => exact ⟨hactor, henforcing, rfl, hsecurity, haudit, hflight⟩
  | securityOf type =>
      cases mark with
      | false => exact ⟨hactor, henforcing, hauditing, hsecurity, haudit, hflight⟩
      | true => exact ⟨hactor, henforcing, hauditing, congrArg (SortedSet.remove · type) hsecurity,
          haudit, hflight⟩
  | auditOf type =>
      cases mark with
      | false => exact ⟨hactor, henforcing, hauditing, hsecurity, haudit, hflight⟩
      | true => exact ⟨hactor, henforcing, hauditing, hsecurity,
          congrArg (SortedSet.remove · type) haudit, hflight⟩

end Context.Alike

/-! ## What is left alone -/

/-- Some work changes no context but the current one, and appends entries to a memory store. -/
structure Work.Extended (number : Nat) (w w₁ : Work) (es : List AuditEntry) : Prop where
  current : w₁.current = w.current
  others : ∀ name, name ≠ w.current → w₁.contextOf name = w.contextOf name
  stored : w₁.media.entries number = w.media.entries number ++ es

namespace Work.Extended

variable {number : Nat} {w w₁ w₂ : Work} {es ds : List AuditEntry}

/-- Work that leaves contexts and media as they are. -/
theorem of_same (hworld : w₁.toWorld = w.toWorld) : Extended number w w₁ [] := by
  refine ⟨congrArg World.current hworld, fun name _ => ?_, ?_⟩
  · rw [hworld]
  · rw [hworld, List.append_nil]

/-- Work within a scope, seen from around it. -/
theorem leaving {s : Scope} (h : Extended number (w.entering s) w₁ es) :
    Extended number w (w₁.leaving s w) es ∧
      (w₁.leaving s w).context = s.leave (s.enter w.context).1 w₁.context := by
  have hcurrent : w₁.current = w.current := h.current
  refine ⟨⟨hcurrent, fun name hname => ?_, h.stored⟩, ?_⟩
  · rw [contextOf_leaving, if_neg hname, h.others name hname, contextOf_entering, if_neg hname]
  · show (w₁.leaving s w).contextOf w₁.current = s.leave _ (w₁.contextOf w₁.current)
    rw [contextOf_leaving, if_pos hcurrent]

theorem trans (h : Extended number w w₁ es) (h' : Extended number w₁ w₂ ds) :
    Extended number w w₂ (es ++ ds) where
  current := h'.current.trans h.current
  others name hname := (h'.others name (h.current ▸ hname)).trans (h.others name hname)
  stored := by rw [h'.stored, h.stored, List.append_assoc]

end Work.Extended

/-- Some work changes the current context in a certain way, and appends entries to a memory
store. -/
structure Work.Changed (number : Nat) (f : Context → Context) (w w₁ : Work)
    (es : List AuditEntry) : Prop where
  current : w₁.current = w.current
  contexts : w₁.contexts = (w.change f).contexts
  stored : w₁.media.entries number = w.media.entries number ++ es

namespace Work.Changed

variable {number : Nat} {f : Context → Context} {w w₁ : Work} {es : List AuditEntry}

theorem contextOf (h : Changed number f w w₁ es) (name : String) :
    w₁.contextOf name = if name = w.current then f w.context else w.contextOf name := by
  rw [World.contextOf, h.contexts]
  exact contextOf_change w f name

theorem extended (h : Changed number f w w₁ es) : Extended number w w₁ es where
  current := h.current
  others name hname := by rw [h.contextOf, if_neg hname]
  stored := h.stored

theorem context (h : Changed number f w w₁ es) : w₁.context = f w.context := by
  rw [World.context, h.contextOf, if_pos h.current]

/-- A change with which nothing is appended. -/
theorem of_contexts (hcurrent : w₁.current = w.current)
    (hcontexts : w₁.contexts = (w.change f).contexts) (hmedia : w₁.media = w.media) :
    Changed number f w w₁ [] :=
  ⟨hcurrent, hcontexts, by rw [hmedia, List.append_nil]⟩

end Work.Changed

/-! ## Twins -/

namespace Run

variable {α β : Type} {number : Nat}

/-- What comes of some work at two times is alike. -/
structure Twins (number : Nat) (A : α → α → Prop) (w w' : Work) (y y' : Except Interrupt α × Work)
    (es es' : List AuditEntry) : Prop where
  extended : w.Extended number y.2 es
  extended' : w'.Extended number y'.2 es'
  written : es.map AuditEntry.content = es'.map AuditEntry.content
  context : y.2.context.Alike y'.2.context
  ends : SameEnd A y.1 y'.1

/-- Two runs come to the same at two times. -/
def TwinAt (number : Nat) (A : α → α → Prop) (r r' : Run α) (w w' : Work) : Prop :=
  ∃ es es', Twins number A w w' (r w) (r' w') es es'

/-- Two runs come to the same wherever their contexts are alike. -/
def Twin (number : Nat) (A : α → α → Prop) (r r' : Run α) : Prop :=
  ∀ w w' : Work, w.context.Alike w'.context → TwinAt number A r r' w w'

/-- A run comes to the same wherever its contexts are alike. -/
abbrev Local (number : Nat) (r : Run α) : Prop := Twin number Eq r r

namespace TwinAt

variable {A : α → α → Prop} {B : β → β → Prop} {r r' : Run α} {w w' : Work}

theorem of_eq {y y' : Except Interrupt α × Work} {es es' : List AuditEntry} (h : r w = y)
    (h' : r' w' = y') (hy : Twins number A w w' y y' es es') : TwinAt number A r r' w w' :=
  ⟨es, es', h ▸ h' ▸ hy⟩

theorem congr {s s' : Run α} (h : r w = s w) (h' : r' w' = s' w')
    (hs : TwinAt number A s s' w w') : TwinAt number A r r' w w' := by
  obtain ⟨es, es', hs⟩ := hs
  exact of_eq h h' hs

/-- Nothing but events, labels and numbers changes. -/
theorem of_same {w₁ w₁' : Work} {x x' : Except Interrupt α} (hc : w.context.Alike w'.context)
    (hr : r w = (x, w₁)) (hr' : r' w' = (x', w₁')) (hw : w₁.toWorld = w.toWorld)
    (hw' : w₁'.toWorld = w'.toWorld) (hx : SameEnd A x x') : TwinAt number A r r' w w' := by
  refine of_eq hr hr' ⟨.of_same hw, .of_same hw', rfl, ?_, hx⟩
  show w₁.toWorld.context.Alike w₁'.toWorld.context
  rw [hw, hw']
  exact hc

/-- The current context changes, and entries are appended. -/
theorem of_changed (f f' : Context → Context) {w₁ w₁' : Work} {x x' : α}
    {es es' : List AuditEntry} (hr : r w = (.ok x, w₁)) (hr' : r' w' = (.ok x', w₁'))
    (hw : w.Changed number f w₁ es) (hw' : w'.Changed number f' w₁' es')
    (hwritten : es.map AuditEntry.content = es'.map AuditEntry.content)
    (hc : (f w.context).Alike (f' w'.context)) (hx : A x x') : TwinAt number A r r' w w' := by
  refine of_eq hr hr' ⟨hw.extended, hw'.extended, hwritten, ?_, .ok hx⟩
  rw [hw.context, hw'.context]
  exact hc

theorem bind {f f' : α → Run β} (hr : TwinAt number A r r' w w')
    (hf : ∀ x x', A x x' → Twin number B (f x) (f' x')) :
    TwinAt number B (r >>= f) (r' >>= f') w w' := by
  obtain ⟨es, es', h⟩ := hr
  rcases hrun : r w with ⟨x, w₁⟩
  rcases hrun' : r' w' with ⟨x', w₁'⟩
  rw [hrun, hrun'] at h
  obtain ⟨hext, hext', hwritten, hc, hends⟩ := h
  cases hends with
  | error i =>
      exact of_eq (bind_of_error hrun f) (bind_of_error hrun' f')
        ⟨hext, hext', hwritten, hc, .error i⟩
  | @ok x x' hA =>
      obtain ⟨ds, ds', hd⟩ := hf x x' hA w₁ w₁' hc
      refine of_eq (bind_of_ok hrun f) (bind_of_ok hrun' f')
        ⟨hext.trans hd.extended, hext'.trans hd.extended', ?_, hd.context, hd.ends⟩
      rw [List.map_append, List.map_append, hwritten, hd.written]

end TwinAt

namespace Twin

variable {A : α → α → Prop} {B : β → β → Prop} {r r' : Run α}

theorem pure {x x' : α} (hx : A x x') :
    Twin number A (Pure.pure x : Run α) (Pure.pure x') := fun _ _ hc =>
  .of_same hc rfl rfl rfl rfl (.ok hx)

theorem panic (text : String) : Twin number A (Run.panic text) (Run.panic text) := fun _ _ hc =>
  .of_same hc rfl rfl rfl rfl (.error _)

theorem tooDeep : Twin number A (Run.tooDeep : Run α) Run.tooDeep := fun _ _ hc =>
  .of_same hc rfl rfl rfl rfl (.error _)

theorem note (e : Event) : Local number (Run.note e) := fun _ _ hc =>
  .of_same hc rfl rfl rfl rfl (.ok rfl)

theorem leaveLabel (text : String) : Local number (Run.leaveLabel text) := fun _ _ hc =>
  .of_same hc rfl rfl rfl rfl (.ok rfl)

theorem bind {f f' : α → Run β} (hr : Twin number A r r')
    (hf : ∀ x x', A x x' → Twin number B (f x) (f' x')) : Twin number B (r >>= f) (r' >>= f') :=
  fun w w' hc => (hr w w' hc).bind hf

/-- What follows a look at the context may depend on nothing in which contexts differ that are
alike. -/
theorem context {f f' : Context → Run β}
    (hf : ∀ c c', Context.Alike c c' → Twin number B (f c) (f' c')) :
    Twin number B (Run.context >>= f) (Run.context >>= f') :=
  fun w w' hc => hf w.context w'.context hc w w' hc

theorem modifyContext {f f' : Context → Context}
    (hf : ∀ c c', Context.Alike c c' → (f c).Alike (f' c')) :
    Twin number Eq (Run.modifyContext f) (Run.modifyContext f') := by
  intro w w' hc
  have hw : ∀ (w : Work) f, w.Changed number f (w.change f) [] := fun _ _ =>
    .of_contexts rfl rfl rfl
  exact .of_changed f f' rfl rfl (hw w f) (hw w' f') rfl (hf _ _ hc) rfl

/-- A scope puts back in both contexts what it found in both. -/
theorem within (s : Scope) (hr : Twin number A r r') :
    Twin number A (Run.within s r) (Run.within s r') := by
  intro w w' hc
  obtain ⟨hmark, henter⟩ := hc.enter s
  obtain ⟨es, es', hext, hext', hwritten, hcontext, hends⟩ :=
    hr (w.entering s) (w'.entering s) (by simpa only [Work.context_entering] using henter)
  refine ⟨es, es', hext.leaving.1, hext'.leaving.1, hwritten, ?_, hends⟩
  show ((r (w.entering s)).2.leaving s w).context.Alike
    ((r' (w'.entering s)).2.leaving s w').context
  rw [hext.leaving.2, hext'.leaving.2, hmark]
  exact hcontext.leave s _

end Twin

/-- Twins are put together to twins where contexts are alike. -/
theorem simulation_twin : Simulation Context.Alike fun _ r r' => Twin number Eq r r' where
  pure _ := .pure rfl
  context := .context
  note := .note
  bind hr hf := hr.bind fun x _ hx => hx ▸ hf x

end Run

/-! ## Captures -/

/-- Entries in an answer that say the same, or the same error. -/
def AuditEntry.SameAnswer {ε : Type} (x x' : Except ε (Option AuditEntry)) : Prop :=
  x.map (Option.map content) = x'.map (Option.map content)

/-- Entries that say the same are received alike. -/
theorem Store.receive_alike (number : Nat) {e e' : AuditEntry} (he : e.content = e'.content)
    (m m' : Media) : ∃ es es',
      (Store.receive (.memory number) e m).2.entries number = m.entries number ++ es ∧
      (Store.receive (.memory number) e' m').2.entries number = m'.entries number ++ es' ∧
      es.map AuditEntry.content = es'.map AuditEntry.content ∧
      AuditEntry.SameAnswer (Store.receive (.memory number) e m).1
        (Store.receive (.memory number) e' m').1 := by
  have hmissing : e.missingField? = e'.missingField? :=
    show e.content.missingField? = e'.content.missingField? by rw [he]
  unfold Store.receive
  rw [← hmissing]
  cases e.missingField? with
  | some field => exact ⟨[], [], (List.append_nil _).symm, (List.append_nil _).symm, rfl, rfl⟩
  | none =>
      refine ⟨[e], [e'], entries_save_memory number e m, entries_save_memory number e' m', ?_, ?_⟩
      · exact congrArg (· :: []) he
      · exact congrArg (fun e => Except.ok (some e)) he

namespace Recorder

open Run

variable {μ : Type} {number : Nat} (r : Recorder μ)

theorem applicable?_congr {c c' : Context} (h : c.Alike c') (a : Action) (subject : Entity) :
    r.applicable? a subject c = r.applicable? a subject c' := by
  rw [applicable?, applicable?, bypassed, bypassed, h.isAuditBypassed, h.isAuditBypassed]

theorem twin_park (d : AuditDeclaration μ) (a : Action) (subject : Entity) (actor : Option Actor)
    (message : Option String) : Local number (r.park d a subject actor message) := by
  intro w w' hc
  obtain ⟨events, hpark⟩ := r.park_apply d a subject actor message w
  obtain ⟨events', hpark'⟩ := r.park_apply d a subject actor message w'
  have hsame : (AuditEntry.unfinished (.ofSerial w.serial) w.now a subject actor
        (d.filter.apply subject.changes) message).content
      = (AuditEntry.unfinished (.ofSerial w'.serial) w'.now a subject actor
        (d.filter.apply subject.changes) message).content := by
    cases actor <;> rfl
  exact .of_changed (fun c => c.hold r.entityType _) (fun c => c.hold r.entityType _) hpark hpark'
    (.of_contexts rfl rfl rfl) (.of_contexts rfl rfl rfl) rfl (hc.hold r.entityType hsame) rfl

theorem twin_conclude (hstore : r.store = .memory number) (subject : Entity) (actor : Option Actor)
    (message : Option String) :
    Twin number AuditEntry.SameAnswer (r.conclude subject actor message)
      (r.conclude subject actor message) := by
  intro w w' hc
  obtain ⟨events, hconclude⟩ := r.conclude_apply subject actor message w
  obtain ⟨events', hconclude'⟩ := r.conclude_apply subject actor message w'
  rw [hstore] at hconclude hconclude'
  have hsame : (AuditEntry.found (.ofSerial w.serial) w.now subject actor message).content
      = (AuditEntry.found (.ofSerial w'.serial) w'.now subject actor message).content := by
    cases actor <;> rfl
  obtain ⟨es, es', hes, hes', hwritten, hanswer⟩ :=
    Store.receive_alike number hsame w.media w'.media
  exact .of_eq hconclude hconclude'
    ⟨⟨rfl, fun _ _ => rfl, hes⟩, ⟨rfl, fun _ _ => rfl, hes'⟩, hwritten, hc, .ok hanswer⟩

/-- A commit completes what is in flight, which says the same, with the same. -/
theorem twin_commit (hstore : r.store = .memory number) (a : Action) (subject : Entity) :
    Twin number AuditEntry.SameAnswer (r.commit a subject) (r.commit a subject) := by
  intro w w' hc
  have hflight := hc.inFlight r.entityType
  cases he : w.context.inFlight.get? r.entityType with
  | none =>
      rw [he] at hflight
      have he' := Option.map_eq_none_iff.mp hflight.symm
      exact .of_same hc (r.commit_of_none subject he) (r.commit_of_none subject he') rfl rfl
        (.ok rfl)
  | some e =>
      rw [he] at hflight
      obtain ⟨e', he', hcontent⟩ := Option.map_eq_some_iff.mp hflight.symm
      have haction : e'.content.action = e.content.action := by rw [hcontent]
      by_cases ha : e.action = a
      · obtain ⟨events, hcommit⟩ := r.commit_of_some subject he ha
        obtain ⟨events', hcommit'⟩ := r.commit_of_some subject he' (haction.trans ha)
        rw [hstore] at hcommit hcommit'
        have hfinished : (e.finished subject w.now).content
            = (e'.finished subject w'.now).content :=
          congrArg (fun e => (e.finished subject .epoch).content) hcontent.symm
        obtain ⟨es, es', hes, hes', hwritten, hanswer⟩ :=
          Store.receive_alike number hfinished w.media w'.media
        exact .of_changed (fun c => c.release r.entityType) (fun c => c.release r.entityType)
          hcommit hcommit' ⟨rfl, rfl, hes⟩ ⟨rfl, rfl, hes'⟩ hwritten (hc.release r.entityType)
          hanswer
      · obtain ⟨events, hcommit⟩ := r.commit_of_other subject he ha
        obtain ⟨events', hcommit'⟩ := r.commit_of_other subject he' (haction ▸ ha)
        exact .of_same hc hcommit hcommit' rfl rfl (.ok rfl)

variable {compose : μ → Entity → Option Actor → Run String}
  (hcompose : ∀ m subject actor, Local number (compose m subject actor))

include hcompose

theorem twin_composed (message : Option μ) (subject : Entity) (actor : Option Actor) :
    Local number (composed compose message subject actor) := by
  cases message with
  | none => exact .pure rfl
  | some m => exact .bind (.within .enforcement (hcompose m subject actor)) fun x x' hx =>
      hx ▸ .pure rfl

theorem twin_begin (a : Action) (subject : Entity) : Local number (r.begin compose a subject) := by
  intro w w' hc
  cases ha : a.isMutation with
  | false =>
      rw [begin, ha]
      exact Twin.pure rfl w w' hc
  | true =>
      have hsame := r.applicable?_congr hc a subject
      cases hd : r.applicable? a subject w.context with
      | none =>
          obtain ⟨events, hbegin⟩ := r.begin_of_none hd
          obtain ⟨events', hbegin'⟩ := r.begin_of_none (hsame ▸ hd)
          exact .of_same hc (hbegin compose) (hbegin' compose) rfl rfl (.ok rfl)
      | some d =>
          refine .congr (r.begin_of_some compose ha hd)
            (r.begin_of_some compose ha (hsame ▸ hd)) ?_
          rw [← hc.actor]
          exact (twin_composed hcompose d.message subject w.context.actor w w' hc).bind
            fun message _ hmessage => hmessage ▸ r.twin_park d a subject w.context.actor message

theorem twin_record (hstore : r.store = .memory number) (subject : Entity) :
    Twin number AuditEntry.SameAnswer (r.record compose subject) (r.record compose subject) := by
  intro w w' hc
  have hsame := r.applicable?_congr hc .find subject
  cases hd : r.applicable? .find subject w.context with
  | none =>
      obtain ⟨events, hrecord⟩ := r.record_of_none hd
      obtain ⟨events', hrecord'⟩ := r.record_of_none (hsame ▸ hd)
      exact .of_same hc (hrecord compose) (hrecord' compose) rfl rfl (.ok rfl)
  | some d =>
      refine .congr (r.record_of_some compose hd) (r.record_of_some compose (hsame ▸ hd)) ?_
      rw [← hc.actor]
      exact (twin_composed hcompose d.message subject w.context.actor w w' hc).bind
        fun message _ hmessage =>
          hmessage ▸ r.twin_conclude hstore subject w.context.actor message

end Recorder

namespace Run

variable {number : Nat}

theorem twin_hold (type : String) (e : AuditEntry) : Local number (hold type e) := by
  intro w w' hc
  obtain ⟨events, hhold⟩ := hold_apply type e w
  obtain ⟨events', hhold'⟩ := hold_apply type e w'
  exact .of_changed (fun c => c.hold type e) (fun c => c.hold type e) hhold hhold'
    (.of_contexts rfl rfl rfl) (.of_contexts rfl rfl rfl) rfl (hc.hold type rfl) rfl

theorem twin_abandon (type : String) : Local number (abandon type) := by
  intro w w' hc
  obtain ⟨events, habandon⟩ := abandon_apply type w
  obtain ⟨events', habandon'⟩ := abandon_apply type w'
  exact .of_changed (fun c => c.release type) (fun c => c.release type) habandon habandon'
    (.of_contexts rfl rfl rfl) (.of_contexts rfl rfl rfl) rfl (hc.release type) rfl

end Run

end LifecycleGuard
