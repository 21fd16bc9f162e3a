import LifecycleGuard.Proofs.Host.Trace

/-!
# The log is what the calls returned

Policies that share a memory store write to it in one place only: a call after a mutation or after
a find that answers with an entry has just appended that entry.

**Entries.**  `AuditEntry.Settled` is what every persisted entry must be, `AuditEntry.Pending` what
every entry in flight must be.  Captures are pending, and completing a pending entry or recording
a find makes a settled one, provided that no required text is blank.  The store is only reached
behind that check.

**Ledgers.**  `Ledger.Sound` says that the store holds exactly the entries that were returned, that
all of them are settled, and that everything in flight is pending.  `Ledger.Sound.step` takes it
over one call and `Ledger.Sound.run` over a list of calls.

**Runs.**  `Host.integrity_run` says it of every run, after each of its calls and at its end.
-/

namespace LifecycleGuard

namespace AuditEntry

/-- What is persisted. -/
structure Settled (e : AuditEntry) : Prop where
  success : e.success = true
  complete : e.missingField? = none
  changes : ∀ c, e.changes = some c → c.isEmpty = false
  find : e.action = .find → e.changes = none

/-- What is in flight. -/
structure Pending (e : AuditEntry) : Prop where
  success : e.success = false
  mutation : e.action ≠ .find
  changes : ∀ c, e.changes = some c → c.isEmpty = false

@[simp] theorem action_unfinished (id : Uuid) (now : Instant) (a : Action) (subject : Entity)
    (actor : Option Actor) (changes : ChangeSet) (message : Option String) :
    (unfinished id now a subject actor changes message).action = a := by
  cases actor <;> rfl

@[simp] theorem success_unfinished (id : Uuid) (now : Instant) (a : Action) (subject : Entity)
    (actor : Option Actor) (changes : ChangeSet) (message : Option String) :
    (unfinished id now a subject actor changes message).success = false := by
  cases actor <;> rfl

@[simp] theorem changes_found (id : Uuid) (now : Instant) (subject : Entity)
    (actor : Option Actor) (message : Option String) :
    (found id now subject actor message).changes = none := by
  cases actor <;> rfl

/-- No changes at all are recorded as none. -/
theorem changing_nonempty (e : AuditEntry) (changes : ChangeSet) :
    ∀ c, (e.changing changes).changes = some c → c.isEmpty = false := by
  intro c hc
  simp only [changing] at hc
  cases hempty : changes.isEmpty with
  | true => simp [hempty] at hc
  | false =>
      simp only [hempty, Bool.false_eq_true, if_false, Option.some.injEq] at hc
      rw [← hc]
      exact hempty

theorem unfinished_pending (id : Uuid) (now : Instant) {a : Action} (ha : a.isMutation = true)
    (subject : Entity) (actor : Option Actor) (changes : ChangeSet) (message : Option String) :
    (unfinished id now a subject actor changes message).Pending := by
  refine ⟨success_unfinished .., ?_,
    changing_nonempty (((blank id now a subject.type).about subject).withActor actor) changes⟩
  rw [action_unfinished]
  rintro rfl
  cases ha

theorem Pending.finished {e : AuditEntry} (he : e.Pending) (subject : Entity) (now : Instant)
    (hcomplete : (e.finished subject now).missingField? = none) :
    (e.finished subject now).Settled :=
  ⟨rfl, hcomplete, he.changes, fun hfind => absurd hfind he.mutation⟩

theorem found_settled (id : Uuid) (now : Instant) (subject : Entity) (actor : Option Actor)
    (message : Option String)
    (hcomplete : (found id now subject actor message).missingField? = none) :
    (found id now subject actor message).Settled := by
  refine ⟨rfl, hcomplete, fun c hc => ?_, fun _ => changes_found ..⟩
  rw [changes_found] at hc
  cases hc

end AuditEntry

/-- What is taken is the entry that was given. -/
theorem Store.receive_ok {s : Store} {e : AuditEntry} {m : Media} {x : Option AuditEntry}
    (hx : (s.receive e m).1 = .ok x) : x = some e := by
  rw [Store.receive] at hx
  cases hmissing : e.missingField? with
  | some field =>
      rw [hmissing] at hx
      cases hx
  | none =>
      simp only [hmissing] at hx
      cases hsave : (s.save e m).1 with
      | error error =>
          rw [hsave] at hx
          cases hx
      | ok _ =>
          rw [hsave] at hx
          exact (Except.ok.inj hx).symm

/-- A memory store takes every entry that misses nothing, and appends it. -/
theorem Store.receive_memory (number : Nat) (e : AuditEntry) (m : Media) :
    (∃ error, Store.receive (.memory number) e m = (.error error, m)) ∨
    e.missingField? = none ∧ ∃ m', Store.receive (.memory number) e m = (.ok (some e), m') ∧
      m'.entries number = m.entries number ++ [e] := by
  cases hmissing : e.missingField? with
  | some field =>
      left
      rw [Store.receive, hmissing]
      exact ⟨_, rfl⟩
  | none =>
      right
      rw [Store.receive, hmissing]
      refine ⟨rfl, _, rfl, ?_⟩
      show ((m.memory.insert number (m.entries number ++ [e])).get? number).getD [] = _
      rw [SortedMap.get?_insert, if_pos rfl]
      rfl

/-! ## Ledgers -/

/-- The entry that a call returned. -/
def Call.returned? : Call → Option AuditEntry
  | ⟨.after .., .ok (some e), _⟩ => some e
  | ⟨.afterFind .., .ok (some e), _⟩ => some e
  | _ => none

/-- The entries that some calls returned, in the order in which they were answered. -/
def Call.returned (calls : List Call) : List AuditEntry := calls.filterMap Call.returned?

/-- A memory store holds the entries that were returned, all of them settled, and what is in flight
is pending. -/
structure Ledger.Sound (number : Nat) (l : Ledger) (returned : List AuditEntry) : Prop where
  stored : l.media.entries number = returned
  settled : ∀ e ∈ returned, e.Settled
  pending : ∀ name type e, l.inFlight name type = some e → e.Pending

namespace Ledger.Sound

variable {π μ : Type} {h : Host π μ} {number : Nat} {l : Ledger} {entries : List AuditEntry}

/-- Putting a pending entry in flight, or taking one out, keeps a ledger sound. -/
theorem put (hs : l.Sound number entries) (name type : String) {e : Option AuditEntry}
    (he : ∀ e', e = some e' → e'.Pending) : (l.put name type e).Sound number entries :=
  ⟨hs.stored, hs.settled, Ledger.AllInFlight.put hs.pending name type he⟩

theorem clear (hs : l.Sound number entries) (name : String) :
    (l.clear name).Sound number entries :=
  ⟨hs.stored, hs.settled, Ledger.AllInFlight.clear hs.pending name⟩

/-- An entry that is received is appended, if it is taken at all, and it is settled if it would be
without a blank text. -/
theorem receive (hs : l.Sound number entries) (e : AuditEntry)
    (he : e.missingField? = none → e.Settled) :
    (∃ error m, Store.receive (.memory number) e l.media = (.error error, m) ∧
      ({ l with media := m } : Ledger).Sound number entries) ∨
    ∃ m, Store.receive (.memory number) e l.media = (.ok (some e), m) ∧
      ({ l with media := m } : Ledger).Sound number (entries ++ [e]) := by
  rcases Store.receive_memory number e l.media with ⟨error, heq⟩ | ⟨hcomplete, m, heq, hm⟩
  · exact .inl ⟨error, l.media, heq, hs⟩
  · refine .inr ⟨m, heq, ?_, fun e' hmem => ?_, hs.pending⟩
    · rw [hm, hs.stored]
    · rcases List.mem_append.mp hmem with hmem | hmem
      · exact hs.settled e' hmem
      · rw [List.mem_singleton.mp hmem]
        exact he hcomplete

/-- What an idle call answers is no entry. -/
theorem returned?_of_idle {c : Command} {x : c.Answer} (hc : c.Idle x) (w : World) :
    Call.returned? ⟨c, x, w⟩ = none := by
  cases c with
  | after => exact hc.elim
  | afterFind name subject =>
      rcases x with error | _ | e
      · rfl
      · rfl
      · exact absurd rfl (hc e)
  | _ => rfl

/-- A call that returns no entry adds none. -/
theorem of_returned?_none {c : Call} (hc : c.returned? = none)
    (hs : c.world.ledger.Sound number entries) :
    c.world.ledger.Sound number (entries ++ c.returned?.toList) := by
  rw [hc, Option.toList_none, List.append_nil]
  exact hs

/-- **One call** keeps a ledger sound, and adds what it returned. -/
theorem step (hstore : ∀ name p, h.policy? name = some p → p.store = .memory number) {c : Call}
    (hc : c.Follows h l) (hs : l.Sound number entries) :
    c.world.ledger.Sound number (entries ++ c.returned?.toList) := by
  cases hc with
  | idle hidle hl =>
      refine of_returned?_none (returned?_of_idle hidle _) ?_
      rw [hl]
      exact hs
  | actor hl =>
      refine of_returned?_none rfl ?_
      rw [hl]
      exact hs
  | reset hl =>
      refine of_returned?_none rfl ?_
      rw [hl]
      exact hs.clear _
  | captured hp ha hd hl =>
      refine of_returned?_none rfl ?_
      rw [hl]
      refine hs.put _ _ fun e he => ?_
      rw [← Option.some.inj he]
      exact AuditEntry.unfinished_pending _ _ ha _ _ _ _
  | @committed name p a e subject now w hp he ha hl =>
      have hreleased : (l.put w.current p.entityType none).Sound number entries :=
        hs.put _ _ (by simp)
      have hfinished := (hs.pending _ _ e he).finished subject now
      rcases hreleased.receive (e.finished subject now) hfinished with
        ⟨error, m, heq, hm⟩ | ⟨m, heq, hm⟩
      · rw [hl, hstore name p hp, show l.media = (l.put w.current p.entityType none).media from rfl,
          heq]
        exact (List.append_nil entries).symm ▸ hm
      · rw [hl, hstore name p hp, show l.media = (l.put w.current p.entityType none).media from rfl,
          heq]
        exact hm
  | uncommitted _ _ hl =>
      refine of_returned?_none rfl ?_
      rw [hl]
      exact hs
  | abandoned _ hl =>
      refine of_returned?_none rfl ?_
      rw [hl]
      exact hs.put _ _ (by simp)
  | @recorded name p subject id now actor message w hp hl =>
      have hfound := AuditEntry.found_settled id now subject actor message
      rcases hs.receive (.found id now subject actor message) hfound with
        ⟨error, m, heq, hm⟩ | ⟨m, heq, hm⟩
      · rw [hl, hstore name p hp, heq]
        exact (List.append_nil entries).symm ▸ hm
      · rw [hl, hstore name p hp, heq]
        exact hm

/-- **A list of calls** keeps a ledger sound, and adds what they returned in their order. -/
theorem run (hstore : ∀ name p, h.policy? name = some p → p.store = .memory number) :
    ∀ (calls : List Call) {l : Ledger} {entries : List AuditEntry}, Traced h l calls →
      l.Sound number entries → (l.after calls).Sound number (entries ++ Call.returned calls)
  | [], _, entries, _, hs => (List.append_nil entries).symm ▸ hs
  | c :: rest, l, entries, ⟨hc, hrest⟩, hs => by
      have hstep := run hstore rest hrest (hs.step hstore hc)
      rw [List.append_assoc] at hstep
      have hreturned : c.returned?.toList ++ Call.returned rest = Call.returned (c :: rest) := by
        rw [Call.returned, Call.returned, List.filterMap_cons]
        cases c.returned? <;> rfl
      rw [hreturned] at hstep
      exact hstep

end Ledger.Sound

/-! ## Runs -/

namespace Host

variable {π μ : Type}

/-- **Integrity of the log.**  Policies that share a memory store, which is empty at first while
nothing is in flight, keep it to the entries that their calls return: after each call of a run, and
at its end, the store holds these and nothing else, in the order of the answers. -/
theorem integrity_run (h : Host π μ) (number : Nat)
    (hstore : ∀ name p, h.policy? name = some p → p.store = .memory number) (depth : Nat)
    {α : Type} (p : Program α) (w : Work) (hempty : w.media.entries number = [])
    (hflight : ∀ name type, (w.contextOf name).inFlight.get? type = none) :
    ∃ calls, (h.run depth p w).2.calls = w.calls ++ calls ∧
      (∀ before after, calls = before ++ after →
        (w.ledger.after before).Sound number (Call.returned before)) ∧
      (h.run depth p w).2.ledger.Sound number (Call.returned calls) := by
  have hstart : w.ledger.Sound number [] := by
    refine ⟨hempty, by simp, fun name type e hin => ?_⟩
    have hnone : w.ledger.inFlight name type = none := hflight name type
    rw [hnone] at hin
    cases hin
  obtain ⟨calls, hcalls, htraced, hledger⟩ := h.traced_run depth p w
  refine ⟨calls, hcalls, ?_, ?_⟩
  · rintro before after rfl
    exact hstart.run hstore before (traced_append.mp htraced).1
  · rw [hledger]
    exact hstart.run hstore calls htraced

/-! ### A host with one policy -/

/-- A note whose title is new. -/
def note (id title : String) : Entity :=
  { Entity.plain "note" (some id) with
    changes := SortedMap.ofList [("title", ⟨.null, .string title⟩)] }

/-- Notes may be updated, and updates are captured. -/
def notePolicy : Policy Unit Unit :=
  ⟨"note", ⟨none, [⟨.action .update, ()⟩], false⟩, ⟨[⟨.update, ⟨.empty, .empty⟩, none⟩]⟩, .memory 0,
    true⟩

/-- A host that knows notes only. -/
def noteHost : Host Unit Unit where
  policy? name := if name = "notes" then some notePolicy else none
  judge _ _ := .done true
  compose _ _ _ := .done ""

theorem noteHost_store (name : String) (p : Policy Unit Unit)
    (hp : noteHost.policy? name = some p) : p.store = .memory 0 := by
  by_cases hname : name = "notes"
  · rw [noteHost, hname] at hp
    rw [← Option.some.inj hp]
    rfl
  · simp only [noteHost, if_neg hname] at hp
    cases hp

/-- Update a note. -/
def updateNote : Program (Except PolicyError (Option AuditEntry)) :=
  .ask (.before "notes" .update (note "1" "a")) fun _ =>
    .ask (.after "notes" .update (note "1" "a")) .done

/-- The log of a run that updates a note holds one entry, and has integrity. -/
theorem integrity_run_updateNote :
    ((noteHost.run 1 updateNote (.start .epoch)).2.media.entries 0).length = 1 ∧
    ∃ calls, (noteHost.run 1 updateNote (.start .epoch)).2.calls
        = (Work.start .epoch).calls ++ calls ∧
      (∀ before after, calls = before ++ after →
        ((Work.start .epoch).ledger.after before).Sound 0 (Call.returned before)) ∧
      (noteHost.run 1 updateNote (.start .epoch)).2.ledger.Sound 0 (Call.returned calls) :=
  ⟨by decide +kernel,
    integrity_run noteHost 0 noteHost_store 1 updateNote (.start .epoch) rfl fun _ _ => rfl⟩

end Host

end LifecycleGuard
