import LifecycleGuard.Proofs.Audit.Provenance
import LifecycleGuard.Proofs.Host.Looking
import LifecycleGuard.Proofs.Host.Supply
import LifecycleGuard.Proofs.Permission.Introspection

/-!
# The call before a mutation

The call before a mutation has three stages in which host code runs: the check of the action, the
check of the attributes, and the beginning of a capture, for which a message is composed.  Host code
can deny in the first two and fail in all three.

**Stages.**  `Policy.Entered` lists how the call ends, with what each stage has left behind, and
`Policy.entered` has one of its cases for every call.  To put a capture in flight is the last thing
that is done, and nothing can fail any more then.

**Host code.**  `Policy.HostCode` is what the call runs of a host.  A property of runs that all of
it has is one of the checks (`Policy.checks_of`) and of the composing (`Policy.composed_of`), if it
is kept by the means to put runs together.  Nothing else can fail or write anything
(`Policy.Entered.hostFails`, `Policy.Entered.media`).

**The gate.**  Where host code leaves the context as it is, `Policy.Left` lists what the call can
leave behind.  `Policy.Gates` says what it answers and what has become of the context and the media,
and `Policy.gates` has it for every policy, entity and work.  A capture never looks like what was in
flight before it, as it takes an identifier of its own (`Policy.Left.serial_lt`).
-/

namespace LifecycleGuard

variable {π μ : Type}

open Run Context

/-! ## Denials -/

namespace Evaluator

variable {judge : π → Request → Run Bool} {e : Evaluator π} {a : Action} {subject : Entity}
  {w : Work} {d : Denial}

theorem kind_of_checkAction (h : (e.checkAction judge a subject w).1 = .ok (.error d)) :
    d.kind = "action" := by
  obtain ⟨events, hcheck⟩ := checkAction_of_isGranted judge e a subject w
  rw [hcheck] at h
  dsimp only at h
  generalize (e.isGranted judge a subject w).1 = answer at h
  rcases answer with i | (_ | _)
  · cases h
  · obtain rfl := Except.error.inj (Except.ok.inj h)
    rfl
  · cases h

theorem kind_of_checkAttributes (h : (e.checkAttributes judge a subject w).1 = .ok (.error d)) :
    d.kind = "attributes" := by
  by_cases hasked : Unasked e.entityType subject w.context
  · obtain ⟨events, hcheck⟩ := checkAttributes_of_unasked hasked a
    rw [hcheck judge] at h
    simp at h
  cases hsecured : e.book.securesAttributes with
  | false =>
      rw [checkAttributes_of_unsecured judge a subject w hsecured] at h
      simp at h
  | true =>
      obtain ⟨fs, hfs⟩ := surveyed_deniedNames judge e ⟨w.context.actor, subject, none⟩
        subject.changes.keys w
      obtain ⟨events, hcheck⟩ := checkAttributes_of_surveyed (a := a) hsecured hasked hfs
      rw [hcheck] at h
      dsimp only at h
      generalize (deniedNames judge e _ subject.changes.keys w).1 = names at h
      rcases names with i | denied
      · cases h
      · by_cases hdenied : denied = []
        · simp [Except.map, hdenied] at h
        · simp only [Except.map, if_neg hdenied] at h
          obtain rfl := Except.error.inj (Except.ok.inj h)
          rfl

end Evaluator

namespace Policy

variable (p : Policy π μ) (o : Oracle π μ) (a : Action) (subject : Entity)

/-! ## Stages -/

/-- How a call before a mutation ends, and what it leaves behind. -/
inductive Entered (w : Work) : Except Interrupt (Except PolicyError Unit) × Work → Prop where
  /-- A check fails. -/
  | unchecked {i : Interrupt} {w₁ : Work} : p.checks o a subject w = (.error i, w₁) →
      Entered w (.error i, w₁)
  | denied {d : Denial} {w₁ : Work} : p.checks o a subject w = (.ok (.error d), w₁) →
      Entered w (.ok (.error (.denied d)), w₁)
  /-- Nothing is to be captured. -/
  | uncaptured {w₁ : Work} (events : List Event) : p.checks o a subject w = (.ok (.ok ()), w₁) →
      p.recorder.applicable? a subject w₁.context = none →
      Entered w (.ok (.ok ()), { w₁ with events })
  /-- The message fails. -/
  | uncomposed {d : AuditDeclaration μ} {i : Interrupt} {w₁ w₂ : Work} :
      p.checks o a subject w = (.ok (.ok ()), w₁) →
      p.recorder.applicable? a subject w₁.context = some d →
      Recorder.composed o.compose d.message subject w₁.context.actor w₁ = (.error i, w₂) →
      Entered w (.error i, w₂)
  /-- The capture is put in flight. -/
  | captured {d : AuditDeclaration μ} {message : Option String} {w₁ w₂ : Work}
      (events : List Event) : p.checks o a subject w = (.ok (.ok ()), w₁) →
      p.recorder.applicable? a subject w₁.context = some d →
      Recorder.composed o.compose d.message subject w₁.context.actor w₁ = (.ok message, w₂) →
      Entered w (.ok (.ok ()), { w₂.change (fun c => c.hold p.entityType
          (.unfinished (.ofSerial w₂.serial) w₂.now a subject w₁.context.actor
            (d.filter.apply subject.changes) message)) with
        events, serial := w₂.serial + 1 })

variable {a} in
theorem entered (ha : a.isMutation = true) (w : Work) :
    p.Entered o a subject w (p.before o a subject w) := by
  rw [before_eq]
  rcases hchecks : p.checks o a subject w with ⟨i | d | _, w₁⟩
  · rw [Run.bind_of_error hchecks]
    exact .unchecked hchecks
  · rw [Run.bind_of_ok hchecks]
    exact .denied hchecks
  · rw [Run.bind_of_ok hchecks]
    change p.Entered o a subject w
      ((p.recorder.begin o.compose a subject >>= fun _ => Pure.pure (.ok ())) w₁)
    cases happlies : p.recorder.applicable? a subject w₁.context with
    | none =>
        obtain ⟨events, hbegin⟩ := p.recorder.begin_of_none happlies
        rw [Run.bind_of_ok (hbegin o.compose)]
        exact .uncaptured events hchecks happlies
    | some d =>
        have hbegin := p.recorder.begin_of_some o.compose ha happlies
        rcases hmessage : Recorder.composed o.compose d.message subject w₁.context.actor w₁
          with ⟨i | message, w₂⟩
        · rw [Run.bind_of_error hmessage] at hbegin
          rw [Run.bind_of_error hbegin]
          exact .uncomposed hchecks happlies hmessage
        · obtain ⟨events, hpark⟩ := p.recorder.park_apply d a subject w₁.context.actor message w₂
          rw [Run.bind_of_ok hmessage, hpark] at hbegin
          rw [Run.bind_of_ok hbegin]
          exact .captured events hchecks happlies hmessage

/-- The check of the action comes first, and the attributes of what is created or updated next. -/
theorem checks_of_action {w w₁ : Work} {x : Except Interrupt (Except Denial Unit)}
    (h : p.evaluator.checkAction o.judge a subject w = (x, w₁)) :
    p.checks o a subject w = match x with
      | .ok (.ok ()) => if a = .create ∨ a = .update
          then p.evaluator.checkAttributes o.judge a subject w₁ else (.ok (.ok ()), w₁)
      | x => (x, w₁) := by
  rw [checks]
  rcases x with i | d | _
  · exact Run.bind_of_error h _
  · exact Run.bind_of_ok h _
  · rw [Run.bind_of_ok h]
    cases a <;> rfl

/-! ## Host code -/

/-- A piece of host code that a call before a mutation can run. -/
inductive HostCode : {α : Type} → Run α → Prop where
  /-- A predicate is asked. -/
  | judge {rule : Rule π} (r : Request) : rule ∈ p.rules.rules →
      HostCode (o.judge rule.predicate r)
  /-- A message is composed. -/
  | compose {d : AuditDeclaration μ} {m : μ} (subject : Entity) (actor : Option Actor) :
      d ∈ p.audits.declarations → d.message = some m → HostCode (o.compose m subject actor)

section HostCode

variable {P : {α : Type} → Run α → Prop} (hP : Congruence (OneSided P)) {p o}
  (hhost : ∀ {α : Type} {r : Run α}, p.HostCode o r → P (Run.within .enforcement r))

include hP hhost

omit hP in
theorem permits_of : ∀ rule ∈ p.evaluator.book.rules, ∀ r, OneSided P Bool
    (Evaluator.permits o.judge r rule) (Evaluator.permits o.judge r rule) :=
  fun _ hrule r => hhost (.judge r hrule)

theorem checkAction_of : P (p.evaluator.checkAction o.judge a subject) :=
  hP.checkTarget (permits_of hhost)

theorem checks_of : P (p.checks o a subject) := by
  have hpure : ∀ x : Except Denial Unit, P (Pure.pure x : Run (Except Denial Unit)) := hP.pure
  refine hP.step (checkAction_of a subject hP hhost) fun checked => ?_
  cases checked with
  | error d => exact hpure _
  | ok _ =>
      cases checksAttributes a with
      | false => exact hpure _
      | true => exact hP.checkAttributes (permits_of hhost) a subject

variable {a} in
theorem composed_of {d : AuditDeclaration μ} (hd : p.audits.declaration? a = some d)
    (actor : Option Actor) : P (Recorder.composed o.compose d.message subject actor) := by
  have hmem : d ∈ p.audits.declarations :=
    (List.mem_filter.mp (List.mem_of_getLast? hd)).1
  cases hmessage : d.message with
  | none => exact hP.pure _
  | some m => exact hP.step (hhost (.compose subject actor hmem hmessage)) fun text => hP.pure _

end HostCode

/-- How host code can fail that a call before a mutation runs.  It runs with enforcement off. -/
def HostFails (i : Interrupt) : Prop :=
  ∃ (α : Type) (r : Run α) (w : Work), p.HostCode o r ∧ w.context.enforcing = false ∧
    (r w).1 = .error i

/-- Host code keeps something true of the media. -/
def HostKeeps (I : Media → Prop) : Prop :=
  ∀ (α : Type) (r : Run α), p.HostCode o r → ∀ w : Work, w.context.enforcing = false →
    I w.media → I (r w).2.media

/-- Host code leaves the context as it is, which it is called in with enforcement off. -/
def HostStill : Prop :=
  ∀ (α : Type) (r : Run α), p.HostCode o r → StillIn Unenforced r

variable {p o} {w : Work}

/-- What fails within a scope is host code. -/
theorem failsOnly_within {α : Type} {r : Run α} (hr : p.HostCode o r) :
    FailsOnly (p.HostFails o) (Run.within .enforcement r) := fun w i hi =>
  ⟨α, r, w.entering .enforcement, hr, by rw [Work.context_entering]; rfl, hi⟩

/-- A scope writes nothing. -/
theorem HostKeeps.within {I : Media → Prop} (h : p.HostKeeps o I) {α : Type} {r : Run α}
    (hr : p.HostCode o r) : KeepsMedia I (Run.within .enforcement r) := fun w hw =>
  h α r hr (w.entering .enforcement) (by rw [Work.context_entering]; rfl) hw

theorem HostStill.checkAction (h : p.HostStill o) :
    w.Still (p.evaluator.checkAction o.judge a subject w).2 :=
  checkAction_of a subject (StillIn.congruence fun _ => True)
    (fun hr => (h _ _ hr).unenforced) w trivial

theorem HostStill.checks (h : p.HostStill o) : w.Still (p.checks o a subject w).2 :=
  checks_of a subject (StillIn.congruence fun _ => True) (fun hr => (h _ _ hr).unenforced) w trivial

variable {a}

theorem HostStill.composed (h : p.HostStill o) {d : AuditDeclaration μ}
    (hd : p.audits.declaration? a = some d) (actor : Option Actor) :
    w.Still (Recorder.composed o.compose d.message subject actor w).2 :=
  composed_of subject (StillIn.congruence fun _ => True) (fun hr => (h _ _ hr).unenforced) hd
    actor w trivial

/-! ## What host code alone can do -/

namespace Entered

variable {subject} {y : Except Interrupt (Except PolicyError Unit) × Work}

theorem permitted_iff (h : p.Entered o a subject w y) (hends : ∃ x, y.1 = .ok x) :
    y.1 = .ok (.ok ()) ↔ (p.checks o a subject w).1 = .ok (.ok ()) := by
  cases h with
  | unchecked hchecks => simp at hends
  | denied hchecks => simp [hchecks]
  | uncaptured events hchecks happlies => simp [hchecks]
  | uncomposed hchecks happlies hmessage => simp at hends
  | captured events hchecks happlies hmessage => simp [hchecks]

/-- Only host code fails. -/
theorem hostFails (h : p.Entered o a subject w y) {i : Interrupt} (hi : y.1 = .error i) :
    p.HostFails o i := by
  have hchecked := checks_of a subject (FailsOnly.congruence (p.HostFails o))
    (fun hr => failsOnly_within hr) w
  cases h with
  | unchecked hchecks =>
      obtain rfl := Except.error.inj hi
      exact hchecked _ (by rw [hchecks])
  | denied hchecks => simp at hi
  | uncaptured events hchecks happlies => simp at hi
  | @uncomposed d j w₁ w₂ hchecks happlies hmessage =>
      have hd := p.recorder.declaration_of_applicable happlies
      have hcomposed := composed_of subject (FailsOnly.congruence (p.HostFails o))
        (fun hr => failsOnly_within hr) hd w₁.context.actor w₁
      obtain rfl := Except.error.inj hi
      exact hcomposed j (by rw [hmessage])
  | captured events hchecks happlies hmessage => simp at hi

/-- Only host code writes. -/
theorem media (h : p.Entered o a subject w y) {I : Media → Prop} (hkeeps : p.HostKeeps o I)
    (hw : I w.media) : I y.2.media := by
  have hchecked := checks_of a subject (KeepsMedia.congruence I) (fun hr => hkeeps.within hr) w hw
  have hcomposed := fun (d : AuditDeclaration μ) (hd : p.audits.declaration? a = some d) actor =>
    composed_of subject (KeepsMedia.congruence I) (fun hr => hkeeps.within hr) hd actor
  cases h with
  | unchecked hchecks => rwa [hchecks] at hchecked
  | denied hchecks => rwa [hchecks] at hchecked
  | uncaptured events hchecks happlies => rwa [hchecks] at hchecked
  | @uncomposed d i w₁ w₂ hchecks happlies hmessage =>
      rw [hchecks] at hchecked
      have hd := p.recorder.declaration_of_applicable happlies
      have hlast := hcomposed d hd w₁.context.actor w₁ hchecked
      rwa [hmessage] at hlast
  | @captured d message w₁ w₂ events hchecks happlies hmessage =>
      rw [hchecks] at hchecked
      have hd := p.recorder.declaration_of_applicable happlies
      have hlast := hcomposed d hd w₁.context.actor w₁ hchecked
      rwa [hmessage] at hlast

end Entered

/-! ## Where a mutation is captured -/

variable (p a) in
/-- When a mutation is captured that is permitted in a context. -/
structure CapturesIn (c : Context) : Prop where
  declared : p.audits.declares a = true
  recording : p.recording = true
  type : c.isAuditBypassed p.entityType = false
  subjectType : c.isAuditBypassed subject.type = false

theorem capturesIn_iff (c : Context) :
    p.CapturesIn a subject c ↔ ∃ d, p.recorder.applicable? a subject c = some d := by
  constructor
  · rintro ⟨hdeclared, hrecording, htype, hsubject⟩
    obtain ⟨d, hd⟩ := Option.isSome_iff_exists.mp hdeclared
    exact ⟨d, applicable?_of_declared hd hrecording htype hsubject⟩
  · rintro ⟨d, happlies⟩
    have hd := p.recorder.declaration_of_applicable happlies
    unfold Recorder.applicable? at happlies
    split at happlies
    · cases happlies
    · rename_i hbypassed
      simp only [Recorder.bypassed, Bool.or_eq_true, Bool.not_eq_true', not_or,
        Bool.not_eq_false, Bool.not_eq_true] at hbypassed
      exact ⟨Option.isSome_iff_exists.mpr ⟨d, hd⟩, hbypassed.1.1, hbypassed.1.2, hbypassed.2⟩

/-! ## What is left -/

variable (p o a)

/-- What a call before a mutation leaves behind, where host code leaves the context as it is. -/
inductive Left (w : Work) : Except Interrupt (Except PolicyError Unit) × Work → Prop where
  /-- The context is as it was. -/
  | same {x : Except Interrupt (Except PolicyError Unit)} {w₁ : Work} : w.Still w₁ →
      (x = .ok (.ok ()) → ¬ p.CapturesIn a subject w.context) → Left w (x, w₁)
  /-- There is a capture more. -/
  | captured {d : AuditDeclaration μ} {message : Option String} {w₁ w₂ : Work}
      (events : List Event) : p.CapturesIn a subject w.context →
      p.audits.declaration? a = some d → p.checks o a subject w = (.ok (.ok ()), w₁) →
      w.Still w₁ → w.Still w₂ →
      Recorder.composed o.compose d.message subject w.context.actor w₁ = (.ok message, w₂) →
      Left w (.ok (.ok ()), { w₂.change (fun c => c.hold p.entityType
          (.unfinished (.ofSerial w₂.serial) w₂.now a subject w.context.actor
            (d.filter.apply subject.changes) message)) with
        events, serial := w₂.serial + 1 })

variable {p o a}

theorem left (ha : a.isMutation = true) (hstill : p.HostStill o) (w : Work) :
    p.Left o a subject w (p.before o a subject w) := by
  have hchecked := hstill.checks (w := w) a subject
  have hentered := p.entered o subject ha w
  generalize p.before o a subject w = y at hentered
  cases hentered with
  | unchecked hchecks =>
      rw [hchecks] at hchecked
      exact .same hchecked fun h => by simp at h
  | denied hchecks =>
      rw [hchecks] at hchecked
      exact .same hchecked fun h => by simp at h
  | uncaptured events hchecks happlies =>
      rw [hchecks] at hchecked
      rw [hchecked.context] at happlies
      refine .same (hchecked.trans (.of_world rfl)) fun _ hcaptures => ?_
      obtain ⟨d, hd⟩ := (capturesIn_iff subject w.context).mp hcaptures
      exact absurd (happlies.symm.trans hd) (by simp)
  | @uncomposed d i w₁ w₂ hchecks happlies hmessage =>
      rw [hchecks] at hchecked
      have hd := p.recorder.declaration_of_applicable happlies
      have hcomposed := hstill.composed (w := w₁) subject hd w₁.context.actor
      rw [hmessage] at hcomposed
      exact .same (hchecked.trans hcomposed) fun h => by simp at h
  | @captured d message w₁ w₂ events hchecks happlies hmessage =>
      rw [hchecks] at hchecked
      have hd := p.recorder.declaration_of_applicable happlies
      have hcomposed := hstill.composed (w := w₁) subject hd w₁.context.actor
      rw [hmessage] at hcomposed
      rw [hchecked.context] at happlies hmessage ⊢
      exact .captured events ((capturesIn_iff subject w.context).mpr ⟨_, happlies⟩) hd hchecks
        hchecked (hchecked.trans hcomposed) hmessage

/-- The context in which a capture was put in flight. -/
theorem context_captured {w₂ : Work} (h : w.Still w₂) (e : AuditEntry) (events : List Event)
    (serial : Nat) :
    ({ w₂.change (fun c => c.hold p.entityType e) with events, serial } : Work).context
      = w.context.hold p.entityType e := by
  show (w₂.change fun c => c.hold p.entityType e).context = _
  rw [Work.context_change, h.context]

namespace Left

variable {subject} {y : Except Interrupt (Except PolicyError Unit) × Work}

theorem refused (h : p.Left o a subject w y) (hrefused : y.1 ≠ .ok (.ok ())) : w.Still y.2 := by
  cases h with
  | same hsame _ => exact hsame
  | captured => exact absurd rfl hrefused

theorem places (h : p.Left o a subject w y) : y.2.current = w.current ∧
    y.2.context.settings = w.context.settings ∧ ∀ type, type ≠ p.entityType →
      y.2.context.inFlight.get? type = w.context.inFlight.get? type := by
  cases h with
  | same hsame _ =>
      exact ⟨hsame.current, by rw [hsame.context], fun type _ => hsame.inFlight type⟩
  | captured events _ _ _ _ hsame _ =>
      refine ⟨hsame.current, ?_, fun type htype => ?_⟩
      · rw [context_captured hsame]
        rfl
      · rw [context_captured hsame]
        exact (SortedMap.get?_insert ..).trans (if_neg htype)

theorem capture (h : p.Left o a subject w y) (hpermitted : y.1 = .ok (.ok ()))
    (hcaptures : p.CapturesIn a subject w.context) :
    ∃ (d : AuditDeclaration μ) (message : Option String) (n : Nat) (w₁ : Work),
      p.audits.declaration? a = some d ∧ w.Still w₁ ∧
      (Recorder.composed o.compose d.message subject w.context.actor w₁).1 = .ok message ∧
      y.2.serial = n + 1 ∧ y.2.context.inFlight.get? p.entityType
        = some (.unfinished (.ofSerial n) y.2.now a subject w.context.actor
          (d.filter.apply subject.changes) message) := by
  cases h with
  | same _ hnothing => exact absurd hcaptures (hnothing hpermitted)
  | @captured d message w₁ w₂ events _ hd _ hsame₁ hsame hmessage =>
      refine ⟨d, message, w₂.serial, w₁, hd, hsame₁, by rw [hmessage], rfl, ?_⟩
      rw [context_captured hsame]
      exact (SortedMap.get?_insert ..).trans (if_pos rfl)

theorem uncaptured (h : p.Left o a subject w y) (hcaptures : ¬ p.CapturesIn a subject w.context) :
    y.2.context.inFlight.get? p.entityType = w.context.inFlight.get? p.entityType := by
  cases h with
  | same hsame _ => exact hsame.inFlight _
  | captured _ hdoes => exact absurd hdoes hcaptures

/-- A capture takes an identifier that was not given out before. -/
theorem serial_lt {host : Host π μ} (h : p.Left o a subject w y) (ho : o.Obeys host)
    (hpermitted : y.1 = .ok (.ok ())) (hcaptures : p.CapturesIn a subject w.context) :
    w.serial < y.2.serial := by
  cases h with
  | same _ hnothing => exact absurd hcaptures (hnothing hpermitted)
  | @captured d message w₁ w₂ events _ hd hchecks hsame₁ _ hmessage =>
      have hchecked := Host.supplied_of_reaches (p.reaches_checks ho a subject w)
      have hcomposed := Host.supplied_of_reaches
        (obeys_composed ho.compose d.message subject w.context.actor w₁)
      rw [hchecks] at hchecked
      rw [hmessage] at hcomposed
      exact Nat.lt_succ_of_le (hchecked.trans hcomposed).serial_le

/-- What is in flight for the type changes just if the mutation is to be captured, where the capture
has an identifier of its own. -/
theorem changes_iff (h : p.Left o a subject w y) (hpermitted : y.1 = .ok (.ok ()))
    (hfresh : p.CapturesIn a subject w.context → ∀ e n,
      w.context.inFlight.get? p.entityType = some e → y.2.serial = n + 1 → e.id ≠ .ofSerial n) :
    y.2.context.inFlight.get? p.entityType ≠ w.context.inFlight.get? p.entityType ↔
      p.CapturesIn a subject w.context := by
  constructor
  · exact fun hchanged => by_contra fun hcaptures => hchanged (h.uncaptured hcaptures)
  · intro hcaptures heq
    obtain ⟨d, message, n, w₁, _, _, _, hserial, hheld⟩ := h.capture hpermitted hcaptures
    exact hfresh hcaptures _ n (heq.symm.trans hheld) hserial (AuditEntry.id_unfinished ..)

end Left

/-! ## The gate -/

variable {subject}

theorem fst_checks_denied {d : Denial} : (p.checks o a subject w).1 = .ok (.error d) ↔
    (p.evaluator.checkAction o.judge a subject w).1 = .ok (.error d) ∨
    (a = .create ∨ a = .update) ∧
      (p.evaluator.checkAction o.judge a subject w).1 = .ok (.ok ()) ∧
      (p.evaluator.checkAttributes o.judge a subject
        (p.evaluator.checkAction o.judge a subject w).2).1 = .ok (.error d) := by
  rcases haction : p.evaluator.checkAction o.judge a subject w with ⟨x, w₁⟩
  rw [p.checks_of_action o a subject haction]
  rcases x with i | d' | _
  · simp
  · simp
  · by_cases ha : a = .create ∨ a = .update <;> simp [ha]

theorem fst_checks_permitted : (p.checks o a subject w).1 = .ok (.ok ()) ↔
    (p.evaluator.checkAction o.judge a subject w).1 = .ok (.ok ()) ∧
    (a = .create ∨ a = .update → (p.evaluator.checkAttributes o.judge a subject
      (p.evaluator.checkAction o.judge a subject w).2).1 = .ok (.ok ())) := by
  rcases haction : p.evaluator.checkAction o.judge a subject w with ⟨x, w₁⟩
  rw [p.checks_of_action o a subject haction]
  rcases x with i | d' | _
  · simp
  · simp
  · by_cases ha : a = .create ∨ a = .update <;> simp [ha]

/-- The call denies what the checks deny. -/
theorem fst_before_denied {e : PolicyError} : (p.before o a subject w).1 = .ok (.error e) ↔
    ∃ d, e = .denied d ∧ (p.checks o a subject w).1 = .ok (.error d) := by
  rw [before_eq]
  rcases hchecks : p.checks o a subject w with ⟨i | d | _, w₁⟩
  · rw [Run.bind_of_error hchecks]
    simp
  · rw [Run.bind_of_ok hchecks]
    simp [eq_comm]
  · rw [Run.bind_of_ok hchecks]
    change ((p.recorder.begin o.compose a subject >>= fun _ => Pure.pure (Except.ok ())) w₁).1
      = Except.ok (Except.error e) ↔ _
    rcases hbegin : p.recorder.begin o.compose a subject w₁ with ⟨i | x, w₂⟩
    · rw [Run.bind_of_error hbegin]
      simp
    · rw [Run.bind_of_ok hbegin]
      simp

theorem fst_before_action {d : Denial} :
    (p.before o a subject w).1 = .ok (.error (.denied d)) ∧ d.kind = "action" ↔
      (p.evaluator.checkAction o.judge a subject w).1 = .ok (.error d) := by
  constructor
  · rintro ⟨hbefore, hkind⟩
    obtain ⟨d', hd, hchecks⟩ := fst_before_denied.mp hbefore
    obtain rfl := PolicyError.denied.inj hd
    rcases fst_checks_denied.mp hchecks with haction | ⟨-, -, hattributes⟩
    · exact haction
    · rw [Evaluator.kind_of_checkAttributes hattributes] at hkind
      simp at hkind
  · intro haction
    exact ⟨fst_before_denied.mpr ⟨d, rfl, fst_checks_denied.mpr (.inl haction)⟩,
      Evaluator.kind_of_checkAction haction⟩

theorem fst_before_attributes {d : Denial} :
    (p.before o a subject w).1 = .ok (.error (.denied d)) ∧ d.kind = "attributes" ↔
      (a = .create ∨ a = .update) ∧
      (p.evaluator.checkAction o.judge a subject w).1 = .ok (.ok ()) ∧
      (p.evaluator.checkAttributes o.judge a subject
        (p.evaluator.checkAction o.judge a subject w).2).1 = .ok (.error d) := by
  constructor
  · rintro ⟨hbefore, hkind⟩
    obtain ⟨d', hd, hchecks⟩ := fst_before_denied.mp hbefore
    obtain rfl := PolicyError.denied.inj hd
    rcases fst_checks_denied.mp hchecks with haction | hattributes
    · rw [Evaluator.kind_of_checkAction haction] at hkind
      simp at hkind
    · exact hattributes
  · intro hattributes
    exact ⟨fst_before_denied.mpr ⟨d, rfl, fst_checks_denied.mpr (.inr hattributes)⟩,
      Evaluator.kind_of_checkAttributes hattributes.2.2⟩

variable (p o a subject)

/-- What a call before a mutation answers, and what it leaves behind. -/
structure Gates (w : Work) : Prop where
  /-- It denies the action if the check of the action does. -/
  action : ∀ d, (p.before o a subject w).1 = .ok (.error (.denied d)) ∧ d.kind = "action" ↔
    (p.evaluator.checkAction o.judge a subject w).1 = .ok (.error d)
  /-- It denies attributes if the action passes its check and they do not pass theirs.  Only what is
  created or updated has attributes to check. -/
  attributes : ∀ d, (p.before o a subject w).1 = .ok (.error (.denied d)) ∧ d.kind = "attributes" ↔
    (a = .create ∨ a = .update) ∧
    (p.evaluator.checkAction o.judge a subject w).1 = .ok (.ok ()) ∧
    (p.evaluator.checkAttributes o.judge a subject
      (p.evaluator.checkAction o.judge a subject w).2).1 = .ok (.error d)
  /-- It has no other errors. -/
  errors : ∀ e, (p.before o a subject w).1 = .ok (.error e) →
    ∃ d, e = .denied d ∧ (d.kind = "action" ∨ d.kind = "attributes")
  /-- It permits if all checks are passed, unless it fails. -/
  permitted : (∃ x, (p.before o a subject w).1 = .ok x) →
    ((p.before o a subject w).1 = .ok (.ok ()) ↔
      (p.evaluator.checkAction o.judge a subject w).1 = .ok (.ok ()) ∧
      (a = .create ∨ a = .update → (p.evaluator.checkAttributes o.judge a subject
        (p.evaluator.checkAction o.judge a subject w).2).1 = .ok (.ok ())))
  /-- It fails only as host code fails that it runs. -/
  fails : ∀ i, (p.before o a subject w).1 = .error i → p.HostFails o i
  /-- Attributes are checked in the context in which the call is made.  If what predicates answer
  depends on nothing else, it does not matter that the action is checked before. -/
  sameContext : w.Still (p.evaluator.checkAction o.judge a subject w).2 ∧
    (p.evaluator.SteadyPredicates o.judge →
      (p.evaluator.checkAttributes o.judge a subject
          (p.evaluator.checkAction o.judge a subject w).2).1
        = (p.evaluator.checkAttributes o.judge a subject w).1)
  /-- Unless it permits, it leaves the context as it was, with all that is in flight. -/
  refused : (p.before o a subject w).1 ≠ .ok (.ok ()) → w.Still (p.before o a subject w).2
  /-- It writes nothing: what host code keeps true of the media stays true. -/
  media : ∀ I, p.HostKeeps o I → I w.media → I (p.before o a subject w).2.media
  /-- Settings stay, and so does all that is in flight for other types. -/
  places : (p.before o a subject w).2.current = w.current ∧
    (p.before o a subject w).2.context.settings = w.context.settings ∧
    ∀ type, type ≠ p.entityType → (p.before o a subject w).2.context.inFlight.get? type
      = w.context.inFlight.get? type
  /-- If the mutation is to be captured, its capture is in flight, with the message that was
  composed and with the last identifier that was given out. -/
  captured : (p.before o a subject w).1 = .ok (.ok ()) → p.CapturesIn a subject w.context →
    ∃ (d : AuditDeclaration μ) (message : Option String) (n : Nat) (w₁ : Work),
      p.audits.declaration? a = some d ∧ w.Still w₁ ∧
      (Recorder.composed o.compose d.message subject w.context.actor w₁).1 = .ok message ∧
      (p.before o a subject w).2.serial = n + 1 ∧
      (p.before o a subject w).2.context.inFlight.get? p.entityType
        = some (.unfinished (.ofSerial n) (p.before o a subject w).2.now a subject w.context.actor
          (d.filter.apply subject.changes) message)
  /-- If it is not to be captured, what was in flight for the type stays. -/
  uncaptured : (p.before o a subject w).1 = .ok (.ok ()) → ¬ p.CapturesIn a subject w.context →
    (p.before o a subject w).2.context.inFlight.get? p.entityType
      = w.context.inFlight.get? p.entityType
  /-- So what is in flight for the type changes just if the mutation is to be captured, and what was
  in flight has not got the identifier of the capture. -/
  changes_iff : (p.before o a subject w).1 = .ok (.ok ()) →
    (∀ e n, w.context.inFlight.get? p.entityType = some e →
      (p.before o a subject w).2.serial = n + 1 → e.id ≠ .ofSerial n) →
    ((p.before o a subject w).2.context.inFlight.get? p.entityType
        ≠ w.context.inFlight.get? p.entityType ↔ p.CapturesIn a subject w.context)
  /-- It has not, where it has got its number before and host code does what a host can, as long as
  the supply lasts. -/
  fresh : ∀ h : Host π μ, o.Obeys h → w.ledger.Numbered w.serial →
    (p.before o a subject w).2.serial ≤ Uuid.supply → (p.before o a subject w).1 = .ok (.ok ()) →
    ((p.before o a subject w).2.context.inFlight.get? p.entityType
        ≠ w.context.inFlight.get? p.entityType ↔ p.CapturesIn a subject w.context)

/-- **Nothing is left of a mutation that is refused**, and of one that is permitted its capture
only. -/
theorem gates (ha : a.isMutation = true) (hstill : p.HostStill o) (w : Work) :
    p.Gates o a subject w where
  action _ := fst_before_action
  attributes _ := fst_before_attributes
  errors e he := by
    obtain ⟨d, hd, hchecks⟩ := fst_before_denied.mp he
    refine ⟨d, hd, ?_⟩
    exact (fst_checks_denied.mp hchecks).imp Evaluator.kind_of_checkAction
      fun h => Evaluator.kind_of_checkAttributes h.2.2
  permitted hends := by
    rw [← fst_checks_permitted]
    exact (p.entered o subject ha w).permitted_iff hends
  fails _ hi := (p.entered o subject ha w).hostFails hi
  sameContext := by
    have hsame := hstill.checkAction (w := w) a subject
    refine ⟨hsame, fun hsteady => ?_⟩
    exact (hsteady.checkAttributes subject a).answer w _ trivial hsame.context
  refused hrefused := (left subject ha hstill w).refused hrefused
  media _ hkeeps hw := (p.entered o subject ha w).media hkeeps hw
  places := (left subject ha hstill w).places
  captured hpermitted hcaptures := (left subject ha hstill w).capture hpermitted hcaptures
  uncaptured _ hcaptures := (left subject ha hstill w).uncaptured hcaptures
  changes_iff hpermitted hfresh :=
    (left subject ha hstill w).changes_iff hpermitted fun _ => hfresh
  fresh _ ho hnumbered hsupply hpermitted := by
    have hleft := left subject ha hstill w
    refine hleft.changes_iff hpermitted fun hcaptures e n he hserial hid => ?_
    obtain ⟨k, hk, hnumber⟩ := hnumbered w.current p.entityType e he
    have hlast := hleft.serial_lt ho hpermitted hcaptures
    have hsame := Uuid.ofSerial_inj (by omega) (by omega) (hnumber.symm.trans hid)
    omega

end Policy

/-! ### A message that fails -/

namespace Host

/-- Notes may be created and updated; the message about an update fails. -/
def frailNotes : Policy Condition MessageRule :=
  ⟨"note", ⟨none, [⟨.action .create, .enforced false⟩, ⟨.action .update, .enforced false⟩,
    ⟨.attr "title", .grants "notes" .destroy (note "1" "a")⟩], false⟩,
    ⟨[⟨.create, ⟨.empty, .empty⟩, none⟩, ⟨.update, ⟨.empty, .empty⟩, some (.panic "no text")⟩]⟩,
    .memory 0, true⟩

/-- The host of the policy. -/
def frail : Host Condition MessageRule := Host.ofPolicies fun _ => some frailNotes

theorem hostStill_frail (depth : Nat) : frailNotes.HostStill (frail.oracle depth) := by
  intro α r hr
  cases hr with
  | judge request hrule =>
      refine (frail.steady_judge ?_ depth).still
      simp only [frailNotes, List.mem_cons, List.not_mem_nil, or_false] at hrule
      rcases hrule with rfl | rfl | rfl <;> exact ⟨trivial, fun _ => trivial⟩
  | compose subject actor hd hmessage =>
      refine (frail.steady_compose ?_ depth).still
      simp only [frailNotes, List.mem_cons, List.not_mem_nil, or_false] at hd
      rcases hd with rfl | rfl
      · cases hmessage
      · obtain rfl := Option.some.inj hmessage
        exact trivial

/-- A note is being created. -/
def creating : Work :=
  (frail.run 2 (.ask (.before "notes" .create (note "1" "a")) .done) (.start .epoch)).2

/-- If the creation begins again, at the same time, then another capture is in flight.  If the
message about an update fails, it is still the same. -/
theorem gates_frailNotes :
    (frailNotes.before (frail.oracle 2) .create (note "1" "a") creating).2.context.inFlight.get?
        "note" ≠ creating.context.inFlight.get? "note" ∧
    (frailNotes.before (frail.oracle 2) .update (note "1" "b") creating).1
      = .error (.panic "no text") ∧
    (frailNotes.before (frail.oracle 2) .update (note "1" "b") creating).2.context
      = creating.context ∧
    (creating.context.inFlight.get? "note").map AuditEntry.action = some .create := by
  have hagain := Policy.gates frailNotes (frail.oracle 2) .create (note "1" "a") rfl
    (hostStill_frail 2) creating
  have hgates := Policy.gates frailNotes (frail.oracle 2) .update (note "1" "b") rfl
    (hostStill_frail 2) creating
  have hchanges := hagain.fresh frail (frail.obeys_oracle 2) (frail.numbered_run 2 _ .epoch)
    (by decide +kernel) (by decide +kernel)
  have hfails : (frailNotes.before (frail.oracle 2) .update (note "1" "b") creating).1
      = .error (.panic "no text") := by decide +kernel
  exact ⟨hchanges.mpr ⟨rfl, rfl, rfl, rfl⟩, hfails, (hgates.refused (by rw [hfails]; simp)).context,
    by decide +kernel⟩

end Host

end LifecycleGuard
