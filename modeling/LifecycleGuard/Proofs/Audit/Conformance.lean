import LifecycleGuard.Audit.Schema
import LifecycleGuard.Proofs.Audit.Integrity
import LifecycleGuard.Proofs.Collections.SortedMap

/-!
# Rows meet their schema

The schema of audit entries is published for readers of a log; nothing in the library looks at it.
That rows meet it rests on several places together: on what is left out of the written form, on a
capture without changes being one without a change-set, and on the check in front of every store.

**One row.**  `AuditEntry.Settled.conforms` — an entry that may be persisted meets the schema.

**One operation.**  An operation of a recorder is looked at for all stores at once.  `Run.Passes`
says which entry it passes to the store: apart from what the store makes of that entry, neither
the answer nor the work depends on the store.  `Recorder.Conforming` says that every entry that is
passed meets the schema.

**Runs.**  `AuditEntry.Begun` is what `begin` puts in flight.  A call puts nothing else there and
writes nothing but rows that meet the schema (`Media.Grown`).  `Host.conforming_run` says so of
runs: whatever happened before, a recorder passes no other rows.
-/

namespace LifecycleGuard

namespace AuditEntry

/-- An entry whose row meets the schema. -/
def Conforms (e : AuditEntry) : Prop := schema.accepts e.toJson = true

/-! ## One row -/

theorem accepts_action (a : Action) :
    (JsonSchema.text 0 (some ["create", "update", "destroy", "find"])).accepts (.string a.name)
      = true := by
  cases a <;> decide

theorem accepts_someText {s : String} (h : Text.isBlankText s = false) :
    someText.accepts (.string s) = true := by
  have hne : s ≠ "" := by
    rintro rfl
    cases h
  have hlength : 1 ≤ s.length :=
    Nat.one_le_iff_ne_zero.mpr fun hzero => hne (String.length_eq_zero_iff.mp hzero)
  simp [someText, JsonSchema.accepts, hlength]

theorem accepts_change (c : AttributeChange) : changeSchema.accepts c.toJson = true :=
  JsonSchema.accepts_object_iff.mpr (by simp [JsonSchema.acceptsMember, JsonSchema.accepts])

/-- A change-set that is not empty has a member, and all of them are changes. -/
theorem accepts_changes {c : ChangeSet} (h : c.isEmpty = false) :
    (JsonSchema.object [] [] (some changeSchema) 1).accepts (ChangeSet.toJson c) = true := by
  refine JsonSchema.accepts_object_iff.mpr ⟨?_, by simp, ?_, fun m hm => ?_⟩
  · rw [List.map_map]
    exact SortedMap.nodup_keys c
  · rw [List.length_map]
    exact List.length_pos_iff.mpr fun hnil => by simp [SortedMap.isEmpty, hnil] at h
  · obtain ⟨change, -, rfl⟩ := List.mem_map.mp hm
    exact accepts_change change.2

/-- The texts that are required are there if none is missing. -/
theorem not_blank_of_complete {e : AuditEntry} (h : e.missingField? = none) :
    Text.isBlankText e.subjectId = false ∧ Text.isBlankText e.subjectType = false ∧
      Text.isBlankText e.actorId = false ∧ Text.isBlankText e.actorType = false := by
  simpa [missingField?, required] using h

/-- A field meets the schema if its value meets the description of it. -/
theorem accepts_field {name : String} {s : JsonSchema} {j : Json} (other : Bool)
    (hfield : described.find? (fun p => p.1 = name) = some (name, s)) (hj : s.accepts j = true) :
    JsonSchema.acceptsMember described name j other = true := by
  rw [JsonSchema.acceptsMember_eq, hfield]
  exact hj

/-- **What may be persisted meets the schema.** -/
theorem Settled.conforms {e : AuditEntry} (he : e.Settled) : e.Conforms := by
  obtain ⟨hsubject, hsubjectType, hactor, hactorType⟩ := not_blank_of_complete he.complete
  have hchanges := he.changes
  unfold Conforms toJson jsonWith schema
  refine JsonSchema.accepts_object_iff.mpr ⟨?_, by simp, Nat.zero_le _, ?_⟩
  · cases e.subjectVersion <;> cases e.message <;> cases e.changes <;> simp
  · simp only [List.forall_mem_append, List.forall_mem_cons]
    refine ⟨⟨⟨⟨⟨⟨?_, ?_, ?_, by simp⟩, ?_⟩, ?_, ?_, ?_, ?_, by simp⟩, ?_⟩, ?_⟩, ?_, by simp⟩
    · exact accepts_field _ rfl rfl
    · exact accepts_field _ rfl (accepts_someText hsubject)
    · exact accepts_field _ rfl (accepts_someText hsubjectType)
    · cases e.subjectVersion with
      | none => simp
      | some v => exact List.forall_mem_singleton.mpr (accepts_field _ rfl rfl)
    · exact accepts_field _ rfl (accepts_someText hactor)
    · exact accepts_field _ rfl (accepts_someText hactorType)
    · exact accepts_field _ rfl (accepts_action e.action)
    · exact accepts_field _ rfl rfl
    · cases e.message with
      | none => simp
      | some m => exact List.forall_mem_singleton.mpr (accepts_field _ rfl rfl)
    · cases hc : e.changes with
      | none => simp
      | some c =>
          have hsome := accepts_changes (hchanges c hc)
          exact List.forall_mem_singleton.mpr (accepts_field _ rfl hsome)
    · exact accepts_field _ rfl rfl

end AuditEntry

/-! ## One operation -/

/-- What an operation does with the store that it is given: it passes an entry to it, or none.
Whatever the store is, it answers with what comes of saving that entry, and all else is the same. -/
inductive Run.Passes (op : Store → Run (Except AuditError (Option AuditEntry))) (w : Work) :
    Option AuditEntry → Prop where
  | nothing (x : Except Interrupt (Except AuditError (Option AuditEntry))) (w₁ : Work) :
      (∀ s, ∃ events, op s w = (x, { w₁ with events })) → Passes op w none
  | entry (e : AuditEntry) (w₁ : Work) :
      (∀ s, ∃ events, op s w = (.ok ((s.save e w₁.media).1.map fun _ => some e),
        { w₁ with media := (s.save e w₁.media).2, events })) → Passes op w (some e)

/-- There is no doubt about what is passed: it is what a memory store has at its end, unlike a store
that keeps nothing. -/
theorem Run.Passes.unique {op : Store → Run (Except AuditError (Option AuditEntry))} {w : Work}
    {e? e?' : Option AuditEntry} (h : Passes op w e?) (h' : Passes op w e?') : e? = e?' := by
  have ends : ∀ {e? : Option AuditEntry}, Passes op w e? →
      (op (.memory 0) w).2.media.entries 0 = (op .null w).2.media.entries 0 ++ e?.toList := by
    intro e? h
    cases h with
    | nothing x w₁ hop =>
        obtain ⟨_, hmemory⟩ := hop (.memory 0)
        obtain ⟨_, hnull⟩ := hop .null
        rw [hmemory, hnull]
        exact (List.append_nil _).symm
    | entry e w₁ hop =>
        obtain ⟨_, hmemory⟩ := hop (.memory 0)
        obtain ⟨_, hnull⟩ := hop .null
        rw [hmemory, hnull]
        exact Store.entries_save_memory 0 e w₁.media
  have hlists := List.append_cancel_left ((ends h).symm.trans (ends h'))
  cases e? <;> cases e?' <;> simp_all

/-- An operation that passes one entry or none, and only one that meets the schema. -/
structure Run.PassesConforming (op : Store → Run (Except AuditError (Option AuditEntry)))
    (w : Work) : Prop where
  passes : ∃ e?, Passes op w e?
  conforms : ∀ e, Passes op w (some e) → e.Conforms

namespace Run.PassesConforming

variable {op : Store → Run (Except AuditError (Option AuditEntry))} {w : Work}

theorem of_passes {e? : Option AuditEntry} (h : Passes op w e?) (he : ∀ e ∈ e?, e.Conforms) :
    PassesConforming op w :=
  ⟨⟨e?, h⟩, fun e h' => he e (h.unique h')⟩

theorem of_nothing (x : Except Interrupt (Except AuditError (Option AuditEntry))) (w₁ : Work)
    (hop : ∀ s, ∃ events, op s w = (x, { w₁ with events })) : PassesConforming op w :=
  of_passes (.nothing x w₁ hop) (by simp)

/-- An entry that is received is passed if it misses nothing, and nothing else is. -/
theorem of_receive (e : AuditEntry) (w₁ : Work) (he : e.missingField? = none → e.Conforms)
    (hop : ∀ s, ∃ events, op s w = (.ok (s.receive e w₁.media).1,
      { w₁ with media := (s.receive e w₁.media).2, events })) : PassesConforming op w := by
  cases hmissing : e.missingField? with
  | some field =>
      refine of_nothing (.ok (.error (.invalid (AuditEntry.missingMessage field)))) w₁ fun s => ?_
      obtain ⟨events, heq⟩ := hop s
      simp only [Store.receive, hmissing] at heq
      exact ⟨events, heq⟩
  | none =>
      have hpasses : Passes op w (some e) := by
        refine .entry e w₁ fun s => ?_
        obtain ⟨events, heq⟩ := hop s
        simp only [Store.receive, hmissing] at heq
        exact ⟨events, heq⟩
      exact of_passes hpasses fun e' he' => Option.some.inj he' ▸ he hmissing

end Run.PassesConforming

/-- An entry that `begin` put in flight. -/
def AuditEntry.Begun (e : AuditEntry) : Prop :=
  ∃ id now a subject actor changes message, a.isMutation = true ∧
    e = .unfinished id now a subject actor changes message

theorem AuditEntry.Begun.pending {e : AuditEntry} (h : e.Begun) : e.Pending := by
  obtain ⟨id, now, a, subject, actor, changes, message, ha, rfl⟩ := h
  exact unfinished_pending id now ha subject actor changes message

namespace Recorder

variable {μ : Type} (r : Recorder μ)

/-- The recorder with another store. -/
def withStore (s : Store) : Recorder μ := { r with store := s }

/-- **What is committed meets the schema.** -/
theorem commit_conforming (a : Action) (subject : Entity) (w : Work)
    (hbegun : ∀ e, w.context.inFlight.get? r.entityType = some e → e.Begun) :
    Run.PassesConforming (fun s => (r.withStore s).commit a subject) w := by
  cases hslot : w.context.inFlight.get? r.entityType with
  | none =>
      exact .of_nothing _ w fun s => ⟨w.events, (r.withStore s).commit_of_none subject hslot⟩
  | some e =>
      by_cases ha : e.action = a
      · have hconforms := fun hcomplete =>
          ((hbegun e hslot).pending.finished subject w.now hcomplete).conforms
        exact .of_receive _ (w.change fun c => c.release r.entityType) hconforms
          fun s => (r.withStore s).commit_of_some subject hslot ha
      · exact .of_nothing _ w fun s => (r.withStore s).commit_of_other subject hslot ha

/-- **What is recorded meets the schema**, whatever host code does while the message is composed. -/
theorem record_conforming (compose : μ → Entity → Option Actor → Run String) (subject : Entity)
    (w : Work) : Run.PassesConforming (fun s => (r.withStore s).record compose subject) w := by
  cases hd : r.applicable? .find subject w.context with
  | none =>
      refine .of_nothing (.ok (.ok none)) w fun s => ?_
      obtain ⟨events, hnone⟩ := (r.withStore s).record_of_none hd
      exact ⟨events, hnone compose⟩
  | some d =>
      have hrecord := fun s => (r.withStore s).record_of_some compose hd
      rcases hcomposed : composed compose d.message subject w.context.actor w
        with ⟨i | message, w₁⟩
      · exact .of_nothing (.error i) w₁ fun s =>
          ⟨w₁.events, (hrecord s).trans (Run.bind_of_error hcomposed _)⟩
      · have hconforms := fun hcomplete =>
          (AuditEntry.found_settled (.ofSerial w₁.serial) w₁.now subject w.context.actor message
            hcomplete).conforms
        refine .of_receive _ { w₁ with serial := w₁.serial + 1 } hconforms fun s => ?_
        obtain ⟨events, hconclude⟩ :=
          (r.withStore s).conclude_apply subject w.context.actor message w₁
        exact ⟨events, (hrecord s).trans ((Run.bind_of_ok hcomposed _).trans hconclude)⟩

/-- Every entry that the recorder passes to its store meets the schema. -/
structure Conforming (w : Work) : Prop where
  commit : ∀ a subject, Run.PassesConforming (fun s => (r.withStore s).commit a subject) w
  record : ∀ compose subject,
    Run.PassesConforming (fun s => (r.withStore s).record compose subject) w

end Recorder

/-! ## Runs -/

/-- Media on which nothing was written besides rows that meet the schema. -/
inductive Media.Grown (m : Media) : Media → Prop where
  | refl : Grown m m
  | save {m₁ : Media} (s : Store) {e : AuditEntry} : Grown m m₁ → e.Conforms →
      Grown m (s.save e m₁).2

theorem Media.Grown.receive {m m₁ : Media} (h : m.Grown m₁) (s : Store) {e : AuditEntry}
    (he : e.missingField? = none → e.Conforms) : m.Grown (s.receive e m₁).2 := by
  rw [Store.receive]
  cases hmissing : e.missingField? with
  | some field => exact h
  | none => exact h.save s (he hmissing)

section Calls

variable {π μ : Type} {h : Host π μ} {l : Ledger} {m : Media}

/-- **One call** puts nothing in flight but what was begun, and writes nothing but rows that meet
the schema. -/
theorem Media.Grown.step (hl : l.AllInFlight AuditEntry.Begun) (hm : m.Grown l.media) {c : Call}
    (hc : c.Follows h l) :
    c.world.ledger.AllInFlight AuditEntry.Begun ∧ m.Grown c.world.ledger.media := by
  cases hc with
  | idle _ hw => rw [hw]; exact ⟨hl, hm⟩
  | actor hw => rw [hw]; exact ⟨hl, hm⟩
  | reset hw => rw [hw]; exact ⟨hl.clear _, hm⟩
  | captured _ ha _ hw =>
      rw [hw]
      exact ⟨hl.put _ _ fun e he => ⟨_, _, _, _, _, _, _, ha, (Option.some.inj he).symm⟩, hm⟩
  | @committed name p a e subject now w _ he _ hw =>
      rw [hw]
      exact ⟨hl.put _ _ (by simp), hm.receive _ fun hcomplete =>
        ((hl _ _ e he).pending.finished subject now hcomplete).conforms⟩
  | uncommitted _ _ hw => rw [hw]; exact ⟨hl, hm⟩
  | abandoned _ hw => rw [hw]; exact ⟨hl.put _ _ (by simp), hm⟩
  | recorded _ hw =>
      rw [hw]
      exact ⟨hl, hm.receive _ fun hcomplete =>
        (AuditEntry.found_settled _ _ _ _ _ hcomplete).conforms⟩

/-- **A list of calls** does so. -/
theorem Media.Grown.run : ∀ (calls : List Call) {l : Ledger}, l.AllInFlight AuditEntry.Begun →
    m.Grown l.media → Traced h l calls →
    (l.after calls).AllInFlight AuditEntry.Begun ∧ m.Grown (l.after calls).media
  | [], _, hl, hm, _ => ⟨hl, hm⟩
  | _ :: rest, _, hl, hm, ⟨hc, hrest⟩ =>
    have hstep := hm.step hl hc
    run rest hstep.1 hstep.2 hrest

end Calls

namespace Host

variable {π μ : Type}

/-- **Every row meets the schema.**  Where nothing was in flight but what was begun, a run writes
nothing but rows that meet the schema, and after it every recorder passes nothing but such rows to
its store, whichever store it is. -/
theorem conforming_run (h : Host π μ) (depth : Nat) {α : Type} (p : Program α) (w : Work)
    (hbegun : w.ledger.AllInFlight AuditEntry.Begun) :
    w.media.Grown (h.run depth p w).2.media ∧
    (h.run depth p w).2.ledger.AllInFlight AuditEntry.Begun ∧
    ∀ r : Recorder μ, r.Conforming (h.run depth p w).2 := by
  obtain ⟨calls, -, htraced, hledger⟩ := h.traced_run depth p w
  obtain ⟨hafter, hgrown⟩ := Media.Grown.run calls hbegun .refl htraced
  rw [← hledger] at hafter hgrown
  refine ⟨hgrown, hafter, fun r => ⟨fun a subject => ?_, fun compose subject => ?_⟩⟩
  · exact r.commit_conforming a subject _ fun e he => hafter _ _ e he
  · exact r.record_conforming compose subject _

/-- A run that updates a note writes one row, and no rows but those that meet the schema. -/
theorem conforming_run_updateNote :
    ((noteHost.run 1 updateNote (.start .epoch)).2.media.entries 0).length = 1 ∧
    (Work.start .epoch).ledger.AllInFlight AuditEntry.Begun ∧
    (Work.start .epoch).media.Grown (noteHost.run 1 updateNote (.start .epoch)).2.media ∧
    (noteHost.run 1 updateNote (.start .epoch)).2.ledger.AllInFlight AuditEntry.Begun ∧
    ∀ r : Recorder Unit, r.Conforming (noteHost.run 1 updateNote (.start .epoch)).2 :=
  have hbegun : (Work.start .epoch).ledger.AllInFlight AuditEntry.Begun :=
    fun _ _ _ he => by cases he
  ⟨by decide +kernel, hbegun, conforming_run noteHost 1 updateNote (.start .epoch) hbegun⟩

end Host

end LifecycleGuard
