import LifecycleGuard.Proofs.Host.Outcome
import LifecycleGuard.Proofs.Host.Separation

/-!
# Bypass scopes affect only what they name

Scopes are put around parts of what units of work do.  This cannot be noticed in anything that the
scopes do not name: a scope without audit leaves all outcomes of calls as they are, and a scope
without security for a type leaves the outcomes of calls about other types as they are, and all
captures.

**Views.**  `Context.Forgets` says of a view that it shows everything but what certain scopes
switch.  Such a scope may be entered and left without a change in the view, and all others do in the
view what they do in the context.

**Schedules.**  `Interspersed` says that a schedule is another one with scopes entered and left in
more places.  These scopes have keys of their own, and need neither nest nor be left at all.

**Two runs.**  `Units.Veiled` says that two states look the same in a view.  It is kept by an
operation that is done on both sides (`Veiled.step`) and by an inserted one
(`Veiled.step_inserted`), and it determines the outcome of a call (`Veiled.sameOutcome`).
`bypass_scopes` follows by induction on how the schedules are interspersed.
-/

namespace LifecycleGuard

variable {π μ : Type}

open Run

/-! ## Views -/

/-- A view that shows of a context everything but what certain scopes switch. -/
structure Context.Forgets (S : Scope → Prop) (view : Context → Context) : Prop where
  settings : ∀ c, view c.settings = view c
  actor : ∀ c a, view (c.withActor a) = (view c).withActor a
  /-- Any other scope can be entered in the view. -/
  enter : ∀ s c, ¬ S s →
    (s.enter (view c)).1 = (s.enter c).1 ∧ (s.enter (view c)).2 = view (s.enter c).2
  leave : ∀ s mark c, ¬ S s → s.leave mark (view c) = view (s.leave mark c)
  entered : ∀ s c, S s → view (s.enter c).2 = view c
  left : ∀ s mark c, S s → view (s.leave mark c) = view c

/-- The scopes in which auditing is off, altogether or for a type. -/
def Scope.OfAudit : Scope → Prop
  | audit => True
  | auditOf _ => True
  | _ => False

namespace Context

/-- The settings without those of auditing. -/
def exceptAudit (c : Context) : Context :=
  { c with auditing := true, auditOff := .empty, inFlight := .empty }

/-- The settings without whether checks are off for a type. -/
def exceptSecurityOf (type : String) (c : Context) : Context :=
  { c with securityOff := SortedSet.remove c.securityOff type, inFlight := .empty }

theorem forgets_exceptAudit : Forgets Scope.OfAudit exceptAudit where
  settings _ := rfl
  actor _ _ := rfl
  enter s c hs := by
    cases s with
    | enforcement => exact ⟨rfl, rfl⟩
    | securityOf type => exact ⟨rfl, rfl⟩
    | audit => exact absurd trivial hs
    | auditOf type => exact absurd trivial hs
  leave s mark c hs := by
    cases s with
    | enforcement => rfl
    | securityOf type => cases mark <;> rfl
    | audit => exact absurd trivial hs
    | auditOf type => exact absurd trivial hs
  entered s c hs := by
    cases s with
    | audit => rfl
    | auditOf type => rfl
    | enforcement => exact hs.elim
    | securityOf type => exact hs.elim
  left s mark c hs := by
    cases s with
    | audit => rfl
    | auditOf type => cases mark <;> rfl
    | enforcement => exact hs.elim
    | securityOf type => exact hs.elim

theorem forgets_exceptSecurityOf (type : String) :
    Forgets (fun s => s = .securityOf type) (exceptSecurityOf type) where
  settings _ := rfl
  actor _ _ := rfl
  enter s c hs := by
    cases s with
    | enforcement => exact ⟨rfl, rfl⟩
    | audit => exact ⟨rfl, rfl⟩
    | auditOf other => exact ⟨rfl, rfl⟩
    | securityOf other =>
        have hother : other ≠ type := fun h => hs (congrArg Scope.securityOf h)
        refine ⟨?_, congrArg (fun off => { exceptSecurityOf type c with securityOff := off }) ?_⟩
        · show (!SortedSet.mem (SortedSet.remove c.securityOff type) other)
            = !SortedSet.mem c.securityOff other
          simp [SortedSet.mem_remove, hother]
        · exact SortedSet.add_remove_comm c.securityOff hother
  leave s mark c hs := by
    cases s with
    | enforcement => rfl
    | audit => rfl
    | auditOf other => cases mark <;> rfl
    | securityOf other =>
        cases mark with
        | false => rfl
        | true =>
            exact congrArg (fun off => { exceptSecurityOf type c with securityOff := off })
              (SortedSet.remove_comm c.securityOff type other)
  entered s c hs := by
    subst hs
    exact congrArg (fun off => { exceptSecurityOf type c with securityOff := off })
      (SortedSet.remove_add_self c.securityOff type)
  left s mark c hs := by
    subst hs
    cases mark with
    | false => rfl
    | true =>
        exact congrArg (fun off => { exceptSecurityOf type c with securityOff := off })
          (SortedSet.remove_remove_self c.securityOff type)

end Context

/-! ## Open scopes -/

/-- The same scope is open under a key, or none.  A scope of certain ones may have another mark. -/
inductive Guard.Alike (S : Scope → Prop) : Option Guard → Option Guard → Prop where
  | none : Alike S none none
  | some {s : Scope} {mark mark' : Bool} : (¬ S s → mark = mark') →
      Alike S (some ⟨s, mark⟩) (some ⟨s, mark'⟩)

/-- The same scopes are open, but for certain ones under certain keys. -/
structure Guards.Alike (K : String → Prop) (S : Scope → Prop) (gs gs' : Guards) : Prop where
  absent : ∀ key, K key → gs.get? key = none
  inserted : ∀ key g, K key → gs'.get? key = some g → S g.scope
  shared : ∀ key, ¬ K key → Guard.Alike S (gs.get? key) (gs'.get? key)

namespace Guards.Alike

variable {K : String → Prop} {S : Scope → Prop} {gs gs' : Guards} {key : String}

theorem ne_key {k : String} (hkey : ¬ K key) (hk : K k) : k ≠ key := by
  rintro rfl
  exact hkey hk

variable (hgs : gs.Alike K S gs')

include hgs

theorem insert (hkey : ¬ K key) {s : Scope} {mark mark' : Bool} (hmark : ¬ S s → mark = mark') :
    Guards.Alike K S (gs.insert key ⟨s, mark⟩) (gs'.insert key ⟨s, mark'⟩) where
  absent k hk := by
    rw [SortedMap.get?_insert, if_neg (ne_key hkey hk)]
    exact hgs.absent k hk
  inserted k g hk hg := by
    rw [SortedMap.get?_insert, if_neg (ne_key hkey hk)] at hg
    exact hgs.inserted k g hk hg
  shared k hk := by
    rw [SortedMap.get?_insert, SortedMap.get?_insert]
    split
    · exact .some hmark
    · exact hgs.shared k hk

theorem erase (hkey : ¬ K key) : Guards.Alike K S (gs.erase key) (gs'.erase key) where
  absent k hk := by
    rw [SortedMap.get?_erase, if_neg (ne_key hkey hk)]
    exact hgs.absent k hk
  inserted k g hk hg := by
    rw [SortedMap.get?_erase, if_neg (ne_key hkey hk)] at hg
    exact hgs.inserted k g hk hg
  shared k hk := by
    rw [SortedMap.get?_erase, SortedMap.get?_erase]
    split
    · exact .none
    · exact hgs.shared k hk

/-- One more scope is open on one side. -/
theorem insert_right (hkey : K key) {g : Guard} (hg : S g.scope) :
    Guards.Alike K S gs (gs'.insert key g) where
  absent := hgs.absent
  inserted k g' hk hg' := by
    rw [SortedMap.get?_insert] at hg'
    split at hg'
    · exact Option.some.inj hg' ▸ hg
    · exact hgs.inserted k g' hk hg'
  shared k hk := by
    rw [SortedMap.get?_insert, if_neg (ne_key hk hkey).symm]
    exact hgs.shared k hk

theorem erase_right (hkey : K key) : Guards.Alike K S gs (gs'.erase key) where
  absent := hgs.absent
  inserted k g hk hg := by
    rw [SortedMap.get?_erase] at hg
    split at hg
    · cases hg
    · exact hgs.inserted k g hk hg
  shared k hk := by
    rw [SortedMap.get?_erase, if_neg (ne_key hk hkey).symm]
    exact hgs.shared k hk

variable {view : Context → Context} (hview : Context.Forgets S view)

include hview

theorem view_release (hkey : ¬ K key) {c c' : Context} (hc : view c = view c') :
    view (gs.release key c) = view (gs'.release key c') := by
  have hguard := hgs.shared key hkey
  unfold Guards.release
  generalize gs.get? key = g at hguard
  generalize gs'.get? key = g' at hguard
  cases hguard with
  | none => exact hc
  | @some s mark mark' hmark =>
      show view (s.leave mark c) = view (s.leave mark' c')
      by_cases hs : S s
      · rw [hview.left s mark c hs, hview.left s mark' c' hs, hc]
      · rw [← hview.leave s mark c hs, ← hview.leave s mark' c' hs, hmark hs, hc]

theorem view_release_right (hkey : K key) (c : Context) :
    view (gs'.release key c) = view c := by
  unfold Guards.release
  cases hg : gs'.get? key with
  | none => rfl
  | some g => exact hview.left g.scope g.mark c (hgs.inserted key g hkey hg)

end Guards.Alike

/-! ## Operations -/

namespace Operation

/-- What an operation does to the settings, where some scopes are open. -/
def setting (gs : Guards) : Operation → Context → Context
  | call c => c.setting
  | enter key s => fun c => gs.release key (s.enter c).2
  | leave key => gs.release key
  | _ => id

/-- The key of the scope that an operation enters or leaves. -/
def key? : Operation → Option String
  | enter key _ => some key
  | leave key => some key
  | _ => none

/-- To enter or leave one of certain scopes under one of certain keys. -/
inductive Inserted (K : String → Prop) (S : Scope → Prop) : Operation → Prop where
  | enter {key : String} {s : Scope} : K key → S s → Inserted K S (.enter key s)
  | leave {key : String} : K key → Inserted K S (.leave key)

/-- Whether an operation is a call. -/
def isCall : Operation → Bool
  | call _ => true
  | _ => false

variable {h : Host π μ} {o : Oracle π μ} {answer : π → Request → Bool}
  {text : μ → Entity → Option Actor → String}

/-- An operation does nothing to the settings but what it is there for. -/
theorem settled_perform (ho : o.Plain answer text) (gs : Guards) (op : Operation) (w : Work) :
    (w.change (op.setting gs)).Kept (op.perform h o gs w).2 := by
  have hkeeps : Keeps (op.perform h o gs) → (w.change id).Kept (op.perform h o gs w).2 :=
    fun hr => (hr w).change_id
  cases op with
  | call c => exact LifecycleGuard.settled_perform ho c w
  | begin name a subject =>
      exact hkeeps (keeps_withPolicy name fun p =>
        p.recorder.keeps_begin ho.compose_keeps a subject)
  | commit name a subject =>
      exact hkeeps (keeps_withPolicy name fun p => p.recorder.keeps_commit a subject)
  | record name subject =>
      exact hkeeps (keeps_withPolicy name fun p =>
        p.recorder.keeps_record ho.compose_keeps subject)
  | hold type e => exact hkeeps (.hold type e)
  | take type =>
      exact hkeeps (.context fun c => .bind (.modifyContext fun _ => rfl) fun _ => .pure _)
  | drop type => exact hkeeps (.abandon type)
  | enter key s => exact .refl _
  | leave key => exact .refl _

variable {K : String → Prop} {S : Scope → Prop} {view : Context → Context}
  (hview : Context.Forgets S view) {gs gs' : Guards} (hgs : gs.Alike K S gs')

include hview hgs

theorem view_setting (op : Operation) (hkey : ∀ key, op.key? = some key → ¬ K key)
    {c c' : Context} (hc : view c = view c') :
    view (op.setting gs c) = view (op.setting gs' c') := by
  cases op with
  | call command =>
      cases command with
      | setActor a =>
          show view (c.withActor a) = view (c'.withActor a)
          rw [hview.actor, hview.actor, hc]
      | reset => rfl
      | _ => exact hc
  | enter key s =>
      refine hgs.view_release hview (hkey key rfl) ?_
      by_cases hs : S s
      · rw [hview.entered s c hs, hview.entered s c' hs, hc]
      · rw [← (hview.enter s c hs).2, ← (hview.enter s c' hs).2, hc]
  | leave key => exact hgs.view_release hview (hkey key rfl) hc
  | _ => exact hc

theorem alike_guards (op : Operation) (hkey : ∀ key, op.key? = some key → ¬ K key)
    {c c' : Context} (hc : view c = view c') :
    (op.guards gs c).Alike K S (op.guards gs' c') := by
  cases op with
  | enter key s =>
      refine hgs.insert (hkey key rfl) fun hs => ?_
      calc (s.enter c).1 = (s.enter (view c)).1 := (hview.enter s c hs).1.symm
        _ = (s.enter (view c')).1 := by rw [hc]
        _ = (s.enter c').1 := (hview.enter s c' hs).1
  | leave key => exact hgs.erase (hkey key rfl)
  | _ => exact hgs

/-- An inserted operation does nothing that is seen in the view. -/
theorem Inserted.view_setting {op : Operation} (hop : op.Inserted K S) (c : Context) :
    view (op.setting gs' c) = view c := by
  cases hop with
  | @enter key s hkey hs =>
      exact (hgs.view_release_right hview hkey _).trans (hview.entered s c hs)
  | leave hkey => exact hgs.view_release_right hview hkey c

omit hview in
theorem Inserted.alike_guards {op : Operation} (hop : op.Inserted K S) (c : Context) :
    gs.Alike K S (op.guards gs' c) := by
  cases hop with
  | enter hkey hs => exact hgs.insert_right hkey hs
  | leave hkey => exact hgs.erase_right hkey

end Operation

/-! ## Schedules -/

/-- A schedule with scopes entered and left in more places.  Its own operations use no key of these
scopes. -/
inductive Interspersed (K : String → Prop) (S : Scope → Prop) :
    List (String × Operation) → List (String × Operation) → Prop where
  | nil : Interspersed K S [] []
  | kept {name : String} {op : Operation} {rest more : List (String × Operation)} :
      (∀ key, op.key? = some key → ¬ K key) → Interspersed K S rest more →
      Interspersed K S ((name, op) :: rest) ((name, op) :: more)
  | inserted {name : String} {op : Operation} {rest more : List (String × Operation)} :
      op.Inserted K S → Interspersed K S rest more → Interspersed K S rest ((name, op) :: more)

/-- The turns in which something is called. -/
def Turn.calls (turns : List Turn) : List Turn := turns.filter fun t => t.operation.isCall

/-- The same call of the same unit, with the same outcome if it is one of certain calls. -/
inductive Turn.SameOutcome (P : Command → Prop) : Turn → Turn → Prop where
  | mk {name : String} {c : Command} {x x' : Except Interrupt c.Answer}
      {before after before' after' : Media} : (P c → SameEnd c.SameOutcome x x') →
      SameOutcome P ⟨name, .call c, x, before, after⟩ ⟨name, .call c, x', before', after'⟩

/-- Two states look the same in a view, and the same scopes are open but for inserted ones. -/
structure Units.Veiled (K : String → Prop) (S : Scope → Prop) (view : Context → Context)
    (u u' : Units) : Prop where
  context : ∀ name, view (u.work.contextOf name) = view (u'.work.contextOf name)
  guards : ∀ name, (u.guards name).Alike K S (u'.guards name)

namespace Units

section Step

variable {h : Host π μ} {o : Oracle π μ} {answer : π → Request → Bool}
  {text : μ → Entity → Option Actor → String} (ho : o.Plain answer text) {K : String → Prop}
  {S : Scope → Prop} {view : Context → Context} (hview : Context.Forgets S view) {u u' : Units}

include ho hview

theorem view_step (u : Units) (name : String) (op : Operation) (other : String) :
    view ((u.step h o name op).2.work.contextOf other)
      = if other = name then view (op.setting (u.guards name) (u.work.contextOf name))
        else view (u.work.contextOf other) := by
  have hkept := (op.settled_perform (h := h) ho (u.guards name)
    { u.work with current := name }).settings other
  rw [Work.contextOf_change] at hkept
  have hstep : view ((u.step h o name op).2.work.contextOf other) = _ :=
    (hview.settings _).symm.trans (congrArg view hkept)
  rw [hstep, hview.settings]
  split <;> rfl

omit ho hview in
theorem guards_step (u : Units) (name : String) (op : Operation) (other : String) :
    (u.step h o name op).2.guards other
      = if other = name then op.guards (u.guards name) (u.work.contextOf name)
        else u.guards other := rfl

variable (hu : Veiled K S view u u')

include hu

/-- **An operation on both sides.** -/
theorem Veiled.step (name : String) {op : Operation}
    (hkey : ∀ key, op.key? = some key → ¬ K key) :
    Veiled K S view (u.step h o name op).2 (u'.step h o name op).2 where
  context other := by
    rw [view_step ho hview, view_step ho hview]
    split
    · exact op.view_setting hview (hu.guards name) hkey (hu.context name)
    · exact hu.context other
  guards other := by
    rw [guards_step, guards_step]
    split
    · exact op.alike_guards hview (hu.guards name) hkey (hu.context name)
    · exact hu.guards other

/-- **An inserted operation.** -/
theorem Veiled.step_inserted (name : String) {op : Operation} (hop : op.Inserted K S) :
    Veiled K S view u (u'.step h o name op).2 where
  context other := by
    rw [view_step ho hview]
    split
    · rename_i hother
      rw [hop.view_setting hview (hu.guards name), hother]
      exact hu.context name
    · exact hu.context other
  guards other := by
    rw [guards_step]
    split
    · rename_i hother
      rw [hother]
      exact hop.alike_guards (hu.guards name) (u'.work.contextOf name)
    · exact hu.guards other

/-- **The outcome of a call.** -/
theorem Veiled.sameOutcome (name : String) {P : Command → Prop} {c : Command}
    (hP : P c → c.SeenIn h view) :
    (u.step h o name (.call c)).1.SameOutcome P (u'.step h o name (.call c)).1 :=
  .mk fun hc => sameOutcome_perform ho hview.settings (hP hc) (hu.context name)

omit hu in
/-- **A schedule and one with more scopes.** -/
theorem Veiled.run {P : Command → Prop} (hP : ∀ c, P c → c.SeenIn h view)
    {schedule more : List (String × Operation)} (hmore : Interspersed K S schedule more)
    (hu : Veiled K S view u u') :
    List.Forall₂ (Turn.SameOutcome P) (Turn.calls (u.run h o schedule).1)
      (Turn.calls (u'.run h o more).1) ∧
    Veiled K S view (u.run h o schedule).2 (u'.run h o more).2 := by
  induction hmore generalizing u u' with
  | nil => exact ⟨.nil, hu⟩
  | @kept name op rest more hkey _ ih =>
      obtain ⟨houtcomes, hend⟩ := ih (hu.step ho hview name hkey)
      rw [run_cons, run_cons]
      refine ⟨?_, hend⟩
      cases op with
      | call c => exact .cons (hu.sameOutcome ho hview name (hP c)) houtcomes
      | _ => exact houtcomes
  | @inserted name op rest more hop _ ih =>
      obtain ⟨houtcomes, hend⟩ := ih (hu.step_inserted ho hview name hop)
      rw [run_cons]
      refine ⟨?_, hend⟩
      cases hop with
      | enter => exact houtcomes
      | leave => exact houtcomes

omit ho hview hu in
/-- In the beginning no scope is inserted. -/
theorem Veiled.refl (hK : ∀ name key, K key → (u.guards name).get? key = none) :
    Veiled K S view u u where
  context _ := rfl
  guards name := by
    refine ⟨hK name, fun key g hkey hg => ?_, fun key _ => ?_⟩
    · rw [hK name key hkey] at hg
      cases hg
    · cases (u.guards name).get? key with
      | none => exact .none
      | some g => exact .some fun _ => rfl

end Step

end Units

/-- The work as the next operation of a unit finds it. -/
def Units.workOf (u : Units) (name : String) : Work := { u.work with current := name }

/-- A call that is about a type: its policy is of the type, or its entity. -/
def Command.Concerns (h : Host π μ) (type : String) (c : Command) : Prop :=
  (∃ name p, c.policyName? = some name ∧ h.policy? name = some p ∧ p.entityType = type) ∨
    ∃ subject, c.subject? = some subject ∧ subject.type = type

theorem seenIn_exceptAudit (h : Host π μ) (c : Command) : c.SeenIn h Context.exceptAudit :=
  fun _ _ _ _ _ _ _ => ⟨rfl, rfl⟩

theorem seenIn_exceptSecurityOf {h : Host π μ} {type : String} {c : Command}
    (hc : ¬ c.Concerns h type) : c.SeenIn h (Context.exceptSecurityOf type) := by
  intro name p subject hname hp hsubject c'
  have htype : p.entityType ≠ type := fun heq => hc (.inl ⟨name, p, hname, hp, heq⟩)
  have hother : subject.type ≠ type := fun heq => hc (.inr ⟨subject, hsubject, heq⟩)
  refine ⟨rfl, ?_⟩
  show (!c'.enforcing || SortedSet.mem (SortedSet.remove c'.securityOff type) subject.type
    || (!c'.enforcing || SortedSet.mem (SortedSet.remove c'.securityOff type) p.entityType)) = _
  rw [SortedSet.mem_remove, SortedSet.mem_remove, decide_eq_true htype, decide_eq_true hother]
  rfl

/-- What is captured can be told from everything but the security of a type. -/
theorem audits_exceptSecurityOf (r : Recorder μ) (subject : Entity) (type : String) (c : Context) :
    r.Audits subject (c.exceptSecurityOf type) ↔ r.Audits subject c :=
  ⟨fun ⟨h₁, h₂, h₃, h₄, h₅⟩ => ⟨h₁, h₂, h₃, h₄, h₅⟩,
    fun ⟨h₁, h₂, h₃, h₄, h₅⟩ => ⟨h₁, h₂, h₃, h₄, h₅⟩⟩

/-- **Bypass scopes affect only what they name.**  Take any schedule of operations, and another one
with scopes entered and left in more places.  If auditing is off in these scopes, the outcomes of
all calls are the same.  If checks are off in them for a type, the outcomes of all calls are the
same that are not about this type; and what is declared of an entity of any type is captured, in the
scopes or out of them, exactly where it is without them. -/
theorem bypass_scopes (h : Host π μ) (o : Oracle π μ) (answer : π → Request → Bool)
    (text : μ → Entity → Option Actor → String) (ho : o.Plain answer text) (u : Units)
    (K : String → Prop) (hK : ∀ name key, K key → (u.guards name).get? key = none) :
    (∀ schedule more, Interspersed K Scope.OfAudit schedule more →
      List.Forall₂ (Turn.SameOutcome fun _ => True) (Turn.calls (u.run h o schedule).1)
        (Turn.calls (u.run h o more).1)) ∧
    ∀ type schedule more, Interspersed K (fun s => s = .securityOf type) schedule more →
      List.Forall₂ (Turn.SameOutcome fun c => ¬ c.Concerns h type)
        (Turn.calls (u.run h o schedule).1) (Turn.calls (u.run h o more).1) ∧
      ∀ name (r : Recorder μ) subject,
        let w := (u.run h o schedule).2.workOf name
        let w' := (u.run h o more).2.workOf name
        (r.Audits subject w'.context ↔ r.Audits subject w.context) ∧
        (r.Audits subject w'.context → r.Captures o.compose text subject w') ∧
        (¬ r.Audits subject w'.context → r.Ignores o.compose subject w') := by
  refine ⟨fun schedule more hmore => ?_, fun type schedule more hmore => ?_⟩
  · have hrun := Units.Veiled.run (P := fun _ => True) ho Context.forgets_exceptAudit
      (fun c _ => seenIn_exceptAudit h c) hmore (.refl hK)
    exact hrun.1
  · obtain ⟨houtcomes, hend⟩ := Units.Veiled.run (P := fun c => ¬ c.Concerns h type) ho
      (Context.forgets_exceptSecurityOf type) (fun c hc => seenIn_exceptSecurityOf hc) hmore
      (.refl hK)
    refine ⟨houtcomes, fun name r subject => ⟨?_, ?_, ?_⟩⟩
    · calc r.Audits subject ((u.run h o more).2.workOf name).context
          ↔ r.Audits subject (((u.run h o more).2.workOf name).context.exceptSecurityOf type) :=
            (audits_exceptSecurityOf ..).symm
        _ ↔ r.Audits subject (((u.run h o schedule).2.workOf name).context.exceptSecurityOf type) :=
            iff_of_eq (congrArg (r.Audits subject) (hend.context name).symm)
        _ ↔ r.Audits subject ((u.run h o schedule).2.workOf name).context :=
            audits_exceptSecurityOf ..
    · exact r.captures_of_audits ho.compose
    · exact r.ignores_of_not_audits o.compose

/-! ### A unit that may update a note and not destroy it -/

/-- A note is to be destroyed, and then it is updated. -/
def visit : List (String × Operation) :=
  [("ann", .call (.before "notes" .destroy (Host.note "1" "a"))),
    ("ann", .call (.before "notes" .update (Host.note "1" "b")))]

/-- The same in a scope without audit. -/
def quietVisit : List (String × Operation) :=
  ("ann", .enter "quiet" .audit) :: visit ++ [("ann", .leave "quiet")]

/-- The same in a scope without security for pages, which stays open. -/
def openVisit : List (String × Operation) := ("ann", .enter "quiet" (.securityOf "page")) :: visit

theorem bypass_scopes_visit :
    let run schedule := Units.idle.run Host.noteHost (Host.noteHost.oracle 1) schedule
    let note := Host.note "1" "b"
    List.Forall₂ (Turn.SameOutcome fun _ => True) (Turn.calls (run visit).1)
      (Turn.calls (run quietVisit).1) ∧
    List.Forall₂ (Turn.SameOutcome fun c => ¬ c.Concerns Host.noteHost "page")
      (Turn.calls (run visit).1) (Turn.calls (run openVisit).1) ∧
    Host.notePolicy.recorder.Captures (Host.noteHost.oracle 1).compose (fun _ _ _ => "") note
      ((run openVisit).2.workOf "ann") := by
  have hplain : (Host.noteHost.oracle 1).Plain (fun _ _ => true) fun _ _ _ => "" :=
    Host.plain_oracle (fun _ _ => rfl) (fun _ _ _ => rfl) 0
  have hkeys : ∀ c key, (Operation.call c).key? = some key → ¬ key = "quiet" :=
    fun _ _ hkey => nomatch hkey
  have hquiet : Interspersed (fun key => key = "quiet") Scope.OfAudit visit quietVisit :=
    .inserted (.enter rfl trivial)
      (.kept (hkeys _) (.kept (hkeys _) (.inserted (.leave rfl) .nil)))
  have hopen : Interspersed (fun key => key = "quiet") (fun s => s = .securityOf "page") visit
      openVisit :=
    .inserted (.enter rfl rfl) (.kept (hkeys _) (.kept (hkeys _) .nil))
  obtain ⟨haudit, hsecurity⟩ := bypass_scopes Host.noteHost (Host.noteHost.oracle 1) _ _ hplain
    Units.idle (fun key => key = "quiet") fun _ _ _ => rfl
  obtain ⟨houtcomes, hcaptures⟩ := hsecurity "page" visit openVisit hopen
  refine ⟨haudit visit quietVisit hquiet, houtcomes, ?_⟩
  refine (hcaptures "ann" Host.notePolicy.recorder (Host.note "1" "b")).2.1 ?_
  exact (Host.notePolicy.recorder.audits_iff _ _).mpr (by decide +kernel)

end LifecycleGuard
