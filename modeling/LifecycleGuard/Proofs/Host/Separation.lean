import LifecycleGuard.Host.Units
import LifecycleGuard.Proofs.Audit.Integrity
import LifecycleGuard.Proofs.Host.Locality
import Mathlib.Data.List.Forall2

/-!
# Units of work do not interfere

Units of work share policies and a memory store, and take turns in any order.  Still each of them
comes to the same as if it were alone: its calls are answered alike, its context ends alike, and it
stores the same entries in the same order.

**One operation.**  `twin_operation` — an operation looks at its context and at the scopes of its
unit, and at nothing else that others could have changed.  It rests on `twin_perform`, which is
about calls and takes predicates and message rules to be local themselves (`Oracle.Local`).

**One turn.**  `Units.Agree` says of a single unit that two states are the same for it.
`Units.Agree.step` carries that over a turn of this unit, taken on both sides, and
`Units.Agree.step_other` over the turn of another unit, taken on one side only.

**A schedule.**  `separate_units` follows by induction on the schedule.  The entries that are stored
are tagged with the unit which stored them, so it can be read off that the store is a merge of what
the units store alone.
-/

namespace LifecycleGuard

variable {π μ : Type}

open Run

/-! ## One operation -/

/-- Answers that differ in the identifiers and times of entries, if at all. -/
def Operation.SameAnswer : (op : Operation) → op.Answer → op.Answer → Prop
  | call c, x, x' => c.SameAnswer x x'
  | commit .., x, x' => AuditEntry.SameAnswer (ε := AuditError) x x'
  | record .., x, x' => AuditEntry.SameAnswer (ε := AuditError) x x'
  | take _, x, x' => Option.map AuditEntry.content x = Option.map AuditEntry.content x'
  | _, x, x' => x = x'

section Operations

variable {h : Host π μ} {o : Oracle π μ} {number : Nat} (ho : o.Local number)
  (hstore : ∀ name p, h.policy? name = some p → p.store = .memory number)

/-- Scopes are left alike. -/
theorem alike_release (gs : Guards) (key : String) {c c' : Context} (hc : c.Alike c') :
    (gs.release key c).Alike (gs.release key c') := by
  unfold Guards.release
  cases gs.get? key with
  | none => exact hc
  | some g => exact hc.leave g.scope g.mark

/-- A scope that is entered leaves the same mark. -/
theorem guards_congr (gs : Guards) (op : Operation) {c c' : Context} (hc : c.Alike c') :
    op.guards gs c = op.guards gs c' := by
  cases op with
  | enter key s =>
      show gs.insert key ⟨s, (s.enter c).1⟩ = gs.insert key ⟨s, (s.enter c').1⟩
      rw [(hc.enter s).1]
  | _ => rfl

include ho hstore

/-- **An operation** looks at its context and at the scopes of its unit only. -/
theorem twin_operation (gs : Guards) (op : Operation) :
    Twin number op.SameAnswer (op.perform h o gs) (op.perform h o gs) := by
  cases op with
  | call c => exact twin_perform ho hstore c
  | begin name a subject =>
      exact twin_withPolicy name fun p _ => p.recorder.twin_begin ho.compose a subject
  | commit name a subject =>
      exact twin_withPolicy name fun p hp => p.recorder.twin_commit (hstore name p hp) a subject
  | record name subject =>
      exact twin_withPolicy name fun p hp =>
        p.recorder.twin_record ho.compose (hstore name p hp) subject
  | hold type e => exact twin_hold type e
  | take type =>
      refine .context fun c c' hc => ?_
      exact .bind (.modifyContext fun _ _ hc => hc.release type) fun _ _ _ =>
        .pure (hc.inFlight type)
  | drop type => exact twin_abandon type
  | enter key s => exact .modifyContext fun _ _ hc => alike_release gs key (hc.enter s).2
  | leave key =>
      exact .bind (.modifyContext fun _ _ hc => alike_release gs key hc) fun _ _ _ => .pure rfl

end Operations

/-! ## One turn -/

/-- The entries that are stored in a turn. -/
def Turn.written (number : Nat) (t : Turn) : List AuditEntry :=
  (t.after.entries number).drop (t.before.entries number).length

/-- The same operation of the same unit, which is answered alike and stores the same. -/
inductive Turn.Alike (number : Nat) : Turn → Turn → Prop where
  | mk {name : String} {op : Operation} {x x' : Except Interrupt op.Answer}
      {before after before' after' : Media} : SameEnd op.SameAnswer x x' →
      (written number ⟨name, op, x, before, after⟩).map AuditEntry.content
        = (written number ⟨name, op, x', before', after'⟩).map AuditEntry.content →
      Alike number ⟨name, op, x, before, after⟩ ⟨name, op, x', before', after'⟩

/-- For one of the units, two states are the same. -/
structure Units.Agree (name : String) (u u' : Units) : Prop where
  context : (u.work.contextOf name).Alike (u'.work.contextOf name)
  guards : u.guards name = u'.guards name

namespace Units

variable {h : Host π μ} {o : Oracle π μ} {number : Nat} {u u' : Units} {name : String}

theorem Agree.refl (name : String) (u : Units) : Agree name u u := ⟨.refl _, rfl⟩

/-- What a turn stores is what it appends. -/
theorem written_of_extended {t : Turn} {es : List AuditEntry}
    (hes : t.after.entries number = t.before.entries number ++ es) : t.written number = es := by
  rw [Turn.written, hes, List.drop_left]

variable (ho : o.Local number)
  (hstore : ∀ name p, h.policy? name = some p → p.store = .memory number)

include ho hstore

/-- A turn appends to the store, and leaves all other units as they are. -/
theorem extended_step (u : Units) (name : String) (op : Operation) :
    ((u.step h o name op).2.work.media.entries number
      = u.work.media.entries number ++ (u.step h o name op).1.written number) ∧
    ∀ other, other ≠ name →
      (u.step h o name op).2.work.contextOf other = u.work.contextOf other ∧
      (u.step h o name op).2.guards other = u.guards other := by
  obtain ⟨es, -, hext, -⟩ := twin_operation ho hstore (u.guards name) op
    { u.work with current := name } { u.work with current := name } (.refl _)
  have hwritten : (u.step h o name op).1.written number = es := written_of_extended hext.stored
  rw [hwritten]
  exact ⟨hext.stored, fun other hother => ⟨hext.others other hother, if_neg hother⟩⟩

/-- **The turn of another unit** goes unnoticed. -/
theorem Agree.step_other (hu : Agree name u u') {other : String} (hother : name ≠ other)
    (op : Operation) : Agree name (u.step h o other op).2 u' := by
  obtain ⟨-, hrest⟩ := extended_step ho hstore u other op
  obtain ⟨hcontext, hguards⟩ := hrest name hother
  exact ⟨hcontext ▸ hu.context, hguards.trans hu.guards⟩

/-- **A turn of the unit** comes to the same on both sides. -/
theorem Agree.step (hu : Agree name u u') (op : Operation) :
    (u.step h o name op).1.Alike number (u'.step h o name op).1 ∧
    Agree name (u.step h o name op).2 (u'.step h o name op).2 := by
  have htwin : TwinAt number op.SameAnswer (op.perform h o (u.guards name))
      (op.perform h o (u'.guards name)) { u.work with current := name }
      { u'.work with current := name } := by
    rw [← hu.guards]
    exact twin_operation ho hstore (u.guards name) op _ _ hu.context
  obtain ⟨es, es', hext, hext', hwritten, hcontext, hends⟩ := htwin
  have hes : (u.step h o name op).1.written number = es := written_of_extended hext.stored
  have hes' : (u'.step h o name op).1.written number = es' := written_of_extended hext'.stored
  rw [World.context, World.context, hext.current, hext'.current] at hcontext
  refine ⟨.mk hends ?_, hcontext, ?_⟩
  · exact (congrArg _ hes).trans (hwritten.trans (congrArg _ hes').symm)
  · have hguards : op.guards (u.guards name) (u.work.contextOf name)
        = op.guards (u'.guards name) (u'.work.contextOf name) := by
      rw [← hu.guards]
      exact guards_congr (u.guards name) op hu.context
    exact (if_pos rfl).trans (hguards.trans (if_pos rfl).symm)

/-! ## A schedule -/

omit ho hstore in
theorem run_cons (u : Units) (name : String) (op : Operation)
    (rest : List (String × Operation)) :
    u.run h o ((name, op) :: rest)
      = ((u.step h o name op).1 :: ((u.step h o name op).2.run h o rest).1,
        ((u.step h o name op).2.run h o rest).2) := rfl

variable (u) in
/-- What a schedule stores is what its turns store. -/
theorem stored_run (schedule : List (String × Operation)) :
    (u.run h o schedule).2.work.media.entries number = u.work.media.entries number
      ++ (u.run h o schedule).1.flatMap (Turn.written number) := by
  induction schedule generalizing u with
  | nil => exact (List.append_nil _).symm
  | cons turn rest ih =>
      obtain ⟨name, op⟩ := turn
      rw [run_cons, List.flatMap_cons, ih, (extended_step ho hstore u name op).1,
        List.append_assoc]

/-- What becomes of a unit among others, and alone. -/
structure Separate (number : Nat) (name : String) (whole alone : List Turn × Units) : Prop where
  /-- Its turns are alike, one by one. -/
  turns : List.Forall₂ (Turn.Alike number) (whole.1.filter fun t => t.name = name) alone.1
  /-- Its context ends alike, and the same scopes are open. -/
  agree : Agree name whole.2 alone.2

/-- A unit has the same turns among others as alone. -/
theorem Agree.run (schedule : List (String × Operation)) (hu : Agree name u u') :
    Separate number name (u.run h o schedule)
      (u'.run h o (schedule.filter fun turn => turn.1 = name)) := by
  induction schedule generalizing u u' with
  | nil => exact ⟨.nil, hu⟩
  | cons turn rest ih =>
      obtain ⟨other, op⟩ := turn
      by_cases hother : other = name
      · subst hother
        obtain ⟨hturn, hstep⟩ := hu.step ho hstore op
        obtain ⟨hturns, hagree⟩ := ih hstep
        have hname : (u.step h o other op).1.name = other := rfl
        rw [List.filter_cons_of_pos (by simp), run_cons, run_cons]
        refine ⟨?_, hagree⟩
        rw [List.filter_cons_of_pos (by rw [hname, decide_eq_true_eq])]
        exact .cons hturn hturns
      · obtain ⟨hturns, hagree⟩ := ih (hu.step_other ho hstore (Ne.symm hother) op)
        have hname : (u.step h o other op).1.name = other := rfl
        rw [List.filter_cons_of_neg (by simpa using hother), run_cons]
        refine ⟨?_, hagree⟩
        rw [List.filter_cons_of_neg (by rw [hname, decide_eq_true_eq]; exact hother)]
        exact hturns

end Units

/-- A list is put together from lists with names, each of which keeps its order. -/
def MergeOf {α : Type} (lists : String → List α) (merged : List α) : Prop :=
  ∃ tagged : List (String × α), tagged.map Prod.snd = merged ∧
    ∀ name, (tagged.filter fun x => x.1 = name).map Prod.snd = lists name

/-- What some turns store, entry by entry, with the unit of each. -/
def Turn.rows (number : Nat) (turns : List Turn) : List (String × AuditEntry) :=
  turns.flatMap fun t => (t.written number).map fun e => (t.name, e.content)

theorem Turn.snd_rows (number : Nat) (turns : List Turn) :
    (rows number turns).map Prod.snd
      = (turns.flatMap (written number)).map AuditEntry.content := by
  simp only [rows, List.map_flatMap, List.map_map]
  rfl

/-- The rows of a unit are those of its turns. -/
theorem Turn.filter_rows (number : Nat) (name : String) (turns : List Turn) :
    (rows number turns).filter (fun row => row.1 = name)
      = rows number (turns.filter fun t => t.name = name) := by
  induction turns with
  | nil => rfl
  | cons t rest ih =>
      have hrows : rows number (t :: rest)
          = (t.written number).map (fun e => (t.name, e.content)) ++ rows number rest := rfl
      rw [hrows, List.filter_append, ih, List.filter_map]
      by_cases ht : t.name = name
      · rw [List.filter_cons_of_pos (by simpa using ht)]
        simp [ht, rows, Function.comp_def]
      · rw [List.filter_cons_of_neg (by simpa using ht)]
        simp [ht, Function.comp_def]

/-- Turns that are alike store the same. -/
theorem Turn.written_of_alike {number : Nat} {turns turns' : List Turn}
    (h : List.Forall₂ (Turn.Alike number) turns turns') :
    (turns.flatMap (written number)).map AuditEntry.content
      = (turns'.flatMap (written number)).map AuditEntry.content := by
  induction h with
  | nil => rfl
  | cons ht _ ih =>
      rw [List.flatMap_cons, List.flatMap_cons, List.map_append, List.map_append, ih]
      cases ht with
      | mk _ hwritten => rw [hwritten]

/-- **Units of work do not interfere.**  Take any schedule of operations of any number of units, and
any state that is the same for a unit in which the unit may be alone.  All of its operations are
answered alike and store alike, and its context and open scopes end alike.  What is stored in all is
a merge of what the units store alone. -/
theorem separate_units (h : Host π μ) (o : Oracle π μ) (number : Nat) (ho : o.Local number)
    (hstore : ∀ name p, h.policy? name = some p → p.store = .memory number) (u : Units)
    (start : String → Units) (hstart : ∀ name, u.Agree name (start name))
    (schedule : List (String × Operation)) :
    let whole := u.run h o schedule
    let alone name := (start name).run h o (schedule.filter fun turn => turn.1 = name)
    let stored (run : List Turn × Units) := run.1.flatMap (Turn.written number)
    (∀ name, Units.Separate number name whole (alone name)) ∧
    whole.2.work.media.entries number = u.work.media.entries number ++ stored whole ∧
    (∀ name, (alone name).2.work.media.entries number
      = (start name).work.media.entries number ++ stored (alone name)) ∧
    MergeOf (fun name => (stored (alone name)).map AuditEntry.content)
      ((stored whole).map AuditEntry.content) := by
  intro whole alone stored
  have hseparate : ∀ name, Units.Separate number name whole (alone name) := fun name =>
    (hstart name).run ho hstore schedule
  refine ⟨hseparate, Units.stored_run u ho hstore schedule,
    fun name => Units.stored_run (start name) ho hstore _, Turn.rows number whole.1,
    Turn.snd_rows number whole.1, fun name => ?_⟩
  rw [Turn.filter_rows, Turn.snd_rows]
  exact Turn.written_of_alike (hseparate name).turns

/-! ### Two units that update notes -/

/-- Notes may be updated by a predicate that leaves a label and asks the context, and the message
tells in which state of the context it was composed. -/
def askingNotes : Policy Condition MessageRule :=
  ⟨"note", ⟨none, [⟨.action .update, .labelled "asked" (.enforced false)⟩], false⟩,
    ⟨[⟨.update, ⟨.empty, .empty⟩, some .state⟩]⟩, .memory 0, true⟩

/-- The host of the policy. -/
def askingHost : Host Condition MessageRule := Host.ofPolicies fun _ => some askingNotes

theorem askingHost_store (name : String) (p : Policy Condition MessageRule)
    (hp : askingHost.policy? name = some p) : p.store = .memory 0 := by
  obtain rfl := Option.some.inj hp
  rfl

/-- No unit has begun. -/
def Units.idle : Units := ⟨.start .epoch, fun _ => .empty⟩

/-- One unit updates a note, first in a scope without audit and then again; meanwhile the other
updates another note. -/
def crossed : List (String × Operation) :=
  [("ann", .enter "quiet" .audit), ("ann", .call (.before "notes" .update (Host.note "1" "a"))),
    ("bob", .call (.before "notes" .update (Host.note "2" "b"))), ("ann", .leave "quiet"),
    ("ann", .call (.before "notes" .update (Host.note "1" "c"))),
    ("bob", .call (.after "notes" .update (Host.note "2" "b"))),
    ("ann", .call (.after "notes" .update (Host.note "1" "c")))]

theorem separate_units_crossed :
    ((Units.idle.run askingHost (askingHost.oracle 1) crossed).2.work.media.entries 0).map
      AuditEntry.subjectId = ["2", "1"] ∧
    ∀ name, Units.Separate 0 name
      (Units.idle.run askingHost (askingHost.oracle 1) crossed)
      (Units.idle.run askingHost (askingHost.oracle 1)
        (crossed.filter fun turn => turn.1 = name)) := by
  have hprivate : askingHost.Private := Host.private_ofPolicies fun _ => some askingNotes
  have hlocal := Host.local_oracle hprivate askingHost_store 1
  refine ⟨by decide +kernel, ?_⟩
  exact (separate_units askingHost (askingHost.oracle 1) 0 hlocal askingHost_store
    Units.idle (fun _ => Units.idle) (fun name => .refl name Units.idle) crossed).1

end LifecycleGuard
