import LifecycleGuard.Proofs.Host.Trace
import LifecycleGuard.Proofs.Uuid

/-!
# Identifiers are given out once

Every entry that a run puts in flight gets the next identifier of the supply.

**Calls.**  `Call.Puts` says that an entry is in flight after a call and was not before it.
`Supplied` gives each of the calls of a list a stretch of serial numbers, from which the entries are
that it puts in flight, and the stretches follow one another.  `Host.supplied_run` says that of the
calls of every run.

**Freshness.**  So no two calls put entries of one identifier in flight, while the supply lasts
(`Supplied.distinctIds`).  And what is in flight has got its number before any that is still to come
(`Ledger.Numbered`), as it has after every run from the start (`Host.numbered_run`).
-/

namespace LifecycleGuard

variable {π μ : Type}

/-- After a call an entry is in flight that was not there on the ledger before it. -/
def Call.Puts (l : Ledger) (name type : String) (e : AuditEntry) (c : Call) : Prop :=
  c.world.ledger.inFlight name type = some e ∧ l.inFlight name type ≠ some e

/-- No two calls put entries of the same identifier in flight. -/
def DistinctIds (l : Ledger) (calls : List Call) : Prop :=
  ∀ before c between c' after name type e name' type' e',
    calls = before ++ c :: (between ++ c' :: after) → c.Puts (l.after before) name type e →
      c'.Puts (c.world.ledger.after between) name' type' e' → e.id ≠ e'.id

/-- Everything in flight has a serial number below some number. -/
def Ledger.Numbered (l : Ledger) (n : Nat) : Prop :=
  l.AllInFlight fun e => ∃ k < n, e.id = .ofSerial k

/-- What some calls put in flight has serial numbers from `n` on and below `n'`, and what later
calls put there has later ones. -/
def Supplied : Ledger → Nat → List Call → Nat → Prop
  | _, n, [], n' => n ≤ n'
  | l, n, c :: rest, n' => ∃ m, n ≤ m ∧
    (∀ name type e, c.Puts l name type e → ∃ k, n ≤ k ∧ k < m ∧ e.id = .ofSerial k) ∧
    Supplied c.world.ledger m rest n'

namespace Supplied

variable {l : Ledger} {n m n' : Nat} {calls more : List Call}

theorem le (h : Supplied l n calls n') : n ≤ n' := by
  induction calls generalizing l n with
  | nil => exact h
  | cons c rest ih =>
    obtain ⟨m, hm, -, hrest⟩ := h
    exact Nat.le_trans hm (ih hrest)

theorem mono (hn : m ≤ n) (h : Supplied l n calls n') : Supplied l m calls n' := by
  cases calls with
  | nil => exact Nat.le_trans hn h
  | cons c rest =>
    obtain ⟨m', hm, hputs, hrest⟩ := h
    refine ⟨m', Nat.le_trans hn hm, fun name type e hc => ?_, hrest⟩
    obtain ⟨k, hk, hkm, hid⟩ := hputs name type e hc
    exact ⟨k, Nat.le_trans hn hk, hkm, hid⟩

theorem append (h : Supplied l n calls m) (hmore : Supplied (l.after calls) m more n') :
    Supplied l n (calls ++ more) n' := by
  induction calls generalizing l n with
  | nil => exact hmore.mono h
  | cons c rest ih =>
    obtain ⟨m', hm, hputs, hrest⟩ := h
    exact ⟨m', hm, hputs, ih hrest hmore⟩

theorem of_append (h : Supplied l n (calls ++ more) n') :
    ∃ m, n ≤ m ∧ Supplied (l.after calls) m more n' := by
  induction calls generalizing l n with
  | nil => exact ⟨n, Nat.le_refl n, h⟩
  | cons c rest ih =>
    obtain ⟨m, hm, -, hrest⟩ := h
    obtain ⟨m', hm', hmore⟩ := ih hrest
    exact ⟨m', Nat.le_trans hm hm', hmore⟩

/-- **Identifiers are distinct** while the supply lasts. -/
theorem distinctIds (h : Supplied l n calls n') (hn : n' ≤ Uuid.supply) : DistinctIds l calls := by
  rintro before c between c' after name type e name' type' e' rfl hc hc' hid
  obtain ⟨m, -, m₁, -, hputs, hrest⟩ := h.of_append
  obtain ⟨m₂, hm₂, m₃, -, hputs', hlast⟩ := hrest.of_append
  obtain ⟨k, -, hk, he⟩ := hputs name type e hc
  obtain ⟨k', hk', hkm, he'⟩ := hputs' name' type' e' hc'
  have hle := hlast.le
  have hsame := Uuid.ofSerial_inj (by omega) (by omega) (he.symm.trans (hid.trans he'))
  omega

/-- What is in flight keeps being from the part of the supply that is given out. -/
theorem numbered (h : Supplied l n calls n') (hl : l.Numbered n) :
    (l.after calls).Numbered n' := by
  induction calls generalizing l n with
  | nil =>
    intro name type e he
    obtain ⟨k, hk, hid⟩ := hl name type e he
    exact ⟨k, Nat.lt_of_lt_of_le hk h, hid⟩
  | cons c rest ih =>
    obtain ⟨m, hm, hputs, hrest⟩ := h
    refine ih hrest fun name type e he => ?_
    by_cases hthere : l.inFlight name type = some e
    · obtain ⟨k, hk, hid⟩ := hl name type e hthere
      exact ⟨k, Nat.lt_of_lt_of_le hk hm, hid⟩
    · obtain ⟨k, -, hk, hid⟩ := hputs name type e ⟨he, hthere⟩
      exact ⟨k, hk, hid⟩

end Supplied

/-! ## All runs -/

/-- The calls between two works are supplied from what is given out between them. -/
def Work.Supplied (w w₁ : Work) : Prop :=
  ∃ calls, w₁.calls = w.calls ++ calls ∧
    LifecycleGuard.Supplied w.ledger w.serial calls w₁.serial ∧ w₁.ledger = w.ledger.after calls

namespace Work.Supplied

variable {w w₁ w₂ : Work}

theorem of_ledger (hcalls : w₁.calls = w.calls) (hledger : w₁.ledger = w.ledger)
    (hserial : w₁.serial = w.serial) : w.Supplied w₁ :=
  ⟨[], hcalls.trans (List.append_nil _).symm, Nat.le_of_eq hserial.symm, hledger⟩

theorem of_call {c : Call} (hcalls : w₁.calls = w.calls ++ [c])
    (hledger : w₁.ledger = c.world.ledger) (hserial : w.serial ≤ w₁.serial)
    (hputs : ∀ name type e, c.Puts w.ledger name type e →
      ∃ k, w.serial ≤ k ∧ k < w₁.serial ∧ e.id = .ofSerial k) : w.Supplied w₁ :=
  ⟨[c], hcalls, ⟨w₁.serial, hserial, hputs, Nat.le_refl _⟩, hledger⟩

/-- A call that leaves something in flight or takes it out, but puts nothing there. -/
theorem of_taking {c : Call} (hcalls : w₁.calls = w.calls ++ [c])
    (hledger : w₁.ledger = c.world.ledger) (hserial : w.serial ≤ w₁.serial)
    (htakes : ∀ name type e, c.world.ledger.inFlight name type = some e →
      w.ledger.inFlight name type = some e) : w.Supplied w₁ :=
  .of_call hcalls hledger hserial fun name type e hc => absurd (htakes name type e hc.1) hc.2

theorem trans (h : w.Supplied w₁) (h' : w₁.Supplied w₂) : w.Supplied w₂ := by
  obtain ⟨calls, hcalls, hsupplied, hledger⟩ := h
  obtain ⟨more, hmore, hsupplied', hledger'⟩ := h'
  rw [hledger] at hsupplied' hledger'
  refine ⟨calls ++ more, ?_, hsupplied.append hsupplied', ?_⟩
  · rw [hmore, hcalls, List.append_assoc]
  · rw [hledger', Ledger.after_append]

/-- Identifiers are never taken back. -/
theorem serial_le (h : w.Supplied w₁) : w.serial ≤ w₁.serial := by
  obtain ⟨calls, -, hsupplied, -⟩ := h
  exact hsupplied.le

theorem numbered (h : w.Supplied w₁) (hw : w.ledger.Numbered w.serial) :
    w₁.ledger.Numbered w₁.serial := by
  obtain ⟨calls, -, hsupplied, hledger⟩ := h
  rw [hledger]
  exact hsupplied.numbered hw

end Work.Supplied

/-- In the beginning nothing is in flight. -/
theorem Work.numbered_start (now : Instant) : (start now).ledger.Numbered (start now).serial := by
  intro name type e he
  have hnone : (start now).ledger.inFlight name type = none := rfl
  rw [hnone] at he
  cases he

theorem AuditEntry.id_unfinished (id : Uuid) (now : Instant) (a : Action) (subject : Entity)
    (actor : Option Actor) (changes : ChangeSet) (message : Option String) :
    (unfinished id now a subject actor changes message).id = id := by
  cases actor <;> rfl

namespace Host

variable {h : Host π μ}

/-- Whatever can happen is supplied. -/
theorem supplied_of_reaches {w w₁ : Work} (hreach : Reaches h w w₁) : w.Supplied w₁ := by
  induction hreach with
  | refl w => exact .of_ledger rfl rfl rfl
  | trans _ _ ih ih' => exact ih.trans ih'
  | aside w => exact .of_ledger rfl rfl rfl
  | @scope s w w₁ _ ih =>
    obtain ⟨calls, hcalls, hsupplied, hledger⟩ := ih
    rw [w.ledger_entering s] at hsupplied hledger
    exact ⟨calls, hcalls, hsupplied, (w₁.ledger_leaving s w).trans hledger⟩
  | turn _ _ ih => exact ih
  | idle w => exact .of_taking rfl rfl (Nat.le_refl _) fun _ _ _ he => he
  | actor w a =>
    refine .of_taking rfl rfl (Nat.le_refl _) fun name type e he => ?_
    rwa [← w.ledger_withActor a]
  | reset w =>
    refine .of_taking rfl rfl (Nat.le_refl _) fun name type e he => ?_
    exact Ledger.inFlight_of_clear (w.ledger_reset ▸ he)
  | @captured _ p a d w subject now actor message =>
    refine .of_call rfl rfl (Nat.le_succ _) fun name type e hc => ?_
    have hin : (w.ledger.put w.current p.entityType (some (.unfinished (.ofSerial w.serial) now a
        subject actor (d.filter.apply subject.changes) message))).inFlight name type = some e :=
      w.ledger_hold .. ▸ hc.1
    rcases Ledger.inFlight_of_put hin with hthere | ⟨-, hnew⟩
    · exact absurd hthere hc.2
    · obtain rfl := Option.some.inj hnew
      exact ⟨w.serial, Nat.le_refl _, Nat.lt_succ_self _, AuditEntry.id_unfinished ..⟩
  | @committed _ p _ e w =>
    refine .of_taking rfl rfl (Nat.le_refl _) fun name type e he => ?_
    have hrelease := congrArg Ledger.inFlight (w.ledger_release p.entityType)
    exact Ledger.inFlight_of_put_none ((congrFun (congrFun hrelease name) type).symm.trans he)
  | uncommitted w => exact .of_taking rfl rfl (Nat.le_refl _) fun _ _ _ he => he
  | @abandoned _ p w =>
    refine .of_taking rfl rfl (Nat.le_refl _) fun name type e he => ?_
    exact Ledger.inFlight_of_put_none (w.ledger_release p.entityType ▸ he)
  | recorded w => exact .of_taking rfl rfl (Nat.le_succ _) fun _ _ _ he => he

/-- **The calls of a run are supplied** from what the run gives out. -/
theorem supplied_run (h : Host π μ) (depth : Nat) {α : Type} (p : Program α) (w : Work) :
    w.Supplied (h.run depth p w).2 :=
  supplied_of_reaches (h.reaches_run depth p w)

/-- **What is in flight has got its number before** whatever is still to come, after every run from
the start. -/
theorem numbered_run (h : Host π μ) (depth : Nat) {α : Type} (p : Program α) (now : Instant) :
    (h.run depth p (.start now)).2.ledger.Numbered (h.run depth p (.start now)).2.serial :=
  (h.supplied_run depth p (.start now)).numbered (Work.numbered_start now)

end Host

end LifecycleGuard
