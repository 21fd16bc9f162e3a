import LifecycleGuard.Proofs.Audit.Integrity
import LifecycleGuard.Proofs.Host.Supply
import Mathlib.Control.Monad.Basic

/-!
# Which capture a transition commits

A transition is a call before a mutation, which was permitted, and the call after it.  What is in
flight between the two is kept by the entity type, so nothing keeps two transitions of one type
apart.

**One place.**  `Call.Captures` says that a call put an entry in flight, and `Kept` that calls left
it there.  What is in flight was put there by the last call that changed the place, or was there
from the beginning (`kept_or_put`), and only captures put anything there (`Traced.source`).

**One transition.**  `Transition.own?` is what its own first call captured, and
`Transition.pending?` what is in flight when its last call is made.  It is the second that is
persisted, and `Transition.commitsOwn_iff` is the exact condition under which it is the first.
`Transition.commitsOwn_iff_undisturbed` says when that is: if the transition captured something,
and no call in between changed what is in flight.  It needs entries to have identifiers of their
own.

**Runs.**  `Host.transitions_run` puts all of it together for the runs of a host, in which
identifiers are distinct as long as the supply lasts.  A capture that is left behind by a transition
that failed is committed by the next one that captures nothing: `Host.unauditedUpdate_commits_other`
is a run of this kind.
-/

namespace LifecycleGuard

variable {π μ : Type}

/-! ## What is in flight in one place -/

/-- A call put an entry in flight: it came before a mutation that was permitted, and the entry is
about the changes of its subject, as far as they pass the filter. -/
def Call.Captures (h : Host π μ) (name type : String) (e : AuditEntry) (c : Call) : Prop :=
  c.world.current = name ∧ c.world.ledger.inFlight name type = some e ∧
    ∃ (policy : String) (p : Policy π μ) (d : AuditDeclaration μ) (subject : Entity) (id : Uuid)
      (now : Instant) (actor : Option Actor) (message : Option String),
      h.policy? policy = some p ∧ p.entityType = type ∧ p.audits.declaration? e.action = some d ∧
      e = .unfinished id now e.action subject actor (d.filter.apply subject.changes) message ∧
      c = ⟨.before policy e.action subject, Except.ok (), c.world⟩

/-- Some calls leave an entry in flight. -/
def Kept (name type : String) (e : AuditEntry) (l : Ledger) (calls : List Call) : Prop :=
  ∀ before after, calls = before ++ after → (l.after before).inFlight name type = some e

theorem Kept.cons {name type : String} {e : AuditEntry} {l : Ledger} {c : Call} {rest : List Call}
    (hl : l.inFlight name type = some e) (hrest : Kept name type e c.world.ledger rest) :
    Kept name type e l (c :: rest) := by
  intro before after heq
  cases before with
  | nil => exact hl
  | cons c' before' =>
      obtain ⟨rfl, htail⟩ := List.cons.inj heq
      exact hrest before' after htail

namespace Call.Follows

variable {h : Host π μ} {l : Ledger} {c : Call} {name type : String} {e : AuditEntry}

/-- What is in flight after a call was in flight before it, or the call has captured it. -/
theorem inFlight (hc : c.Follows h l) (he : c.world.ledger.inFlight name type = some e) :
    l.inFlight name type = some e ∨ c.Captures h name type e := by
  cases hc with
  | idle _ hl => exact .inl (hl ▸ he)
  | actor hl => exact .inl (hl ▸ he)
  | reset hl =>
      rw [hl] at he
      exact .inl (Ledger.inFlight_of_clear he)
  | @captured policy p a d subject id now actor message w hp ha hd hl =>
      have hin := he
      rw [hl] at he
      rcases Ledger.inFlight_of_put he with hbefore | ⟨⟨rfl, rfl⟩, hnew⟩
      · exact .inl hbefore
      · obtain rfl := Option.some.inj hnew
        have haction := AuditEntry.action_unfinished id now a subject actor
          (d.filter.apply subject.changes) message
        refine .inr ⟨rfl, hin, policy, p, d, subject, id, now, actor, message, hp, rfl, ?_, ?_, ?_⟩
        · rw [haction]
          exact hd
        · rw [haction]
        · rw [haction]
  | @committed policy p a e' subject now w hp _ _ hl =>
      rw [hl] at he
      exact .inl (Ledger.inFlight_of_put_none (n := w.current) (t := p.entityType) he)
  | uncommitted _ _ hl => exact .inl (hl ▸ he)
  | abandoned _ hl =>
      rw [hl] at he
      exact .inl (Ledger.inFlight_of_put_none he)
  | recorded _ hl =>
      rw [hl] at he
      exact .inl he

/-- Only captures put anything in flight. -/
theorem captures (hc : c.Follows h l) (hputs : c.Puts l name type e) :
    c.Captures h name type e :=
  (hc.inFlight hputs.1).resolve_left hputs.2

/-- The call after a mutation persists what is in flight, if it is of the same action, and nothing
otherwise. -/
theorem after_cases {policy : String} {p : Policy π μ} {a : Action} {outcome : Entity}
    {x : Except PolicyError (Option AuditEntry)} {w : World}
    (hc : Call.Follows h l ⟨.after policy a outcome, x, w⟩) (hp : h.policy? policy = some p) :
    (x = .ok none ∧ ∀ e, l.inFlight w.current p.entityType = some e → e.action ≠ a) ∨
    ∃ e now, l.inFlight w.current p.entityType = some e ∧ e.action = a ∧
      x = (p.store.receive (e.finished outcome now) l.media).1.mapError PolicyError.audit := by
  cases hc with
  | idle hidle => exact hidle.elim
  | @committed _ p' _ e _ now _ hp' he ha _ =>
      obtain rfl := Option.some.inj (hp'.symm.trans hp)
      exact .inr ⟨e, now, he, ha, rfl⟩
  | uncommitted hp' hnone _ =>
      obtain rfl := Option.some.inj (hp'.symm.trans hp)
      exact .inl ⟨rfl, hnone⟩

end Call.Follows

/-- What is in flight after some calls was there before them and was kept, or one of them put it
there and it was kept since. -/
theorem kept_or_put {name type : String} {e : AuditEntry} :
    ∀ {calls : List Call} {l : Ledger}, (l.after calls).inFlight name type = some e →
      Kept name type e l calls ∨ ∃ before c after, calls = before ++ c :: after ∧
        c.Puts (l.after before) name type e ∧ Kept name type e c.world.ledger after
  | [], l, he => by
      left
      intro before after heq
      obtain ⟨rfl, rfl⟩ := List.append_eq_nil_iff.mp heq.symm
      exact he
  | c :: rest, l, he => by
      have hlater : (c.world.ledger.after rest).inFlight name type = some e := he
      rcases kept_or_put hlater with hkept | ⟨before, c', after, rfl, hputs, hkept⟩
      · have hin : c.world.ledger.inFlight name type = some e := hkept [] rest rfl
        by_cases hbefore : l.inFlight name type = some e
        · exact .inl (.cons hbefore hkept)
        · exact .inr ⟨[], c, rest, rfl, ⟨hin, hbefore⟩, hkept⟩
      · exact .inr ⟨c :: before, c', after, rfl, hputs, hkept⟩

/-- **Everything in flight has a source**: it was there from the beginning, or some call captured
it, and all calls since have left it there. -/
theorem Traced.source {h : Host π μ} {name type : String} {e : AuditEntry} {calls : List Call}
    {l : Ledger} (ht : Traced h l calls) (he : (l.after calls).inFlight name type = some e) :
    Kept name type e l calls ∨ ∃ before c after, calls = before ++ c :: after ∧
      c.Captures h name type e ∧ Kept name type e c.world.ledger after := by
  rcases kept_or_put he with hkept | ⟨before, c, after, rfl, hputs, hkept⟩
  · exact .inl hkept
  · exact .inr ⟨before, c, after, rfl, ht.follows.captures hputs, hkept⟩

/-! ## Transitions -/

/-- A transition among some calls: one before a mutation, which was permitted, and one after it, of
the same policy and action and on the same context. -/
structure Transition (h : Host π μ) (calls : List Call) where
  earlier : List Call
  meanwhile : List Call
  later : List Call
  name : String
  policy : Policy π μ
  action : Action
  /-- The entity when the transition begins. -/
  subject : Entity
  /-- The entity when it is over. -/
  outcome : Entity
  answer : Except PolicyError (Option AuditEntry)
  begun : World
  ended : World
  known : h.policy? name = some policy
  same : ended.current = begun.current
  split : calls = earlier ++ ⟨.before name action subject, Except.ok (), begun⟩ ::
    (meanwhile ++ ⟨.after name action outcome, answer, ended⟩ :: later)

/-- An entry is what came of a capture. -/
structure AuditEntry.Completes (e capture : AuditEntry) : Prop where
  id : e.id = capture.id
  changes : e.changes = capture.changes
  actorId : e.actorId = capture.actorId
  actorType : e.actorType = capture.actorType
  message : e.message = capture.message

namespace Transition

variable {h : Host π μ} {calls : List Call} (t : Transition h calls) (l : Ledger)

/-- What is in flight in the place of the transition. -/
def place (l : Ledger) : Option AuditEntry := l.inFlight t.begun.current t.policy.entityType

/-- What the first call of the transition captured, if the calls began on `l`. -/
def own? : Option AuditEntry :=
  if t.place t.begun.ledger = t.place (l.after t.earlier) then none else t.place t.begun.ledger

/-- What is in flight when the last call of the transition is made. -/
def pending? : Option AuditEntry := t.place (t.begun.ledger.after t.meanwhile)

/-- No call in the meantime changes what is in flight in the place of the transition. -/
def Undisturbed : Prop :=
  ∀ before after, t.meanwhile = before ++ after →
    t.place (t.begun.ledger.after before) = t.place t.begun.ledger

/-- What the transition persists, if anything, is what came of its own capture. -/
def CommitsOwn : Prop :=
  ∀ e, t.answer = .ok (some e) → ∃ own, t.own? l = some own ∧ e.Completes own

theorem place_of_own? {own : AuditEntry} (ho : t.own? l = some own) :
    t.place t.begun.ledger = some own := by
  rw [own?] at ho
  by_cases hsame : t.place t.begun.ledger = t.place (l.after t.earlier)
  · rw [if_pos hsame] at ho
    cases ho
  · rw [if_neg hsame] at ho
    exact ho

/-- Where nothing disturbs a transition, what is in flight at its end is what was at its begin. -/
theorem pending?_of_undisturbed (hu : t.Undisturbed) : t.pending? = t.place t.begun.ledger :=
  hu t.meanwhile [] (List.append_nil _).symm

/-- The calls up to the last one of the transition. -/
def prior : List Call :=
  t.earlier ++ ⟨.before t.name t.action t.subject, Except.ok (), t.begun⟩ :: t.meanwhile

theorem split_prior :
    calls = t.prior ++ ⟨.after t.name t.action t.outcome, t.answer, t.ended⟩ :: t.later := by
  rw [prior, List.append_assoc, List.cons_append]
  exact t.split

variable {l}

theorem after_prior : l.after t.prior = t.begun.ledger.after t.meanwhile := by
  rw [prior, Ledger.after_append]
  rfl

theorem traced_prior (ht : Traced h l calls) : Traced h l t.prior := by
  rw [t.split_prior, traced_append] at ht
  exact ht.1

theorem follows_first (ht : Traced h l calls) :
    Call.Follows h (l.after t.earlier)
      ⟨.before t.name t.action t.subject, Except.ok (), t.begun⟩ :=
  (t.traced_prior ht).follows

theorem follows_last (ht : Traced h l calls) :
    Call.Follows h (t.begun.ledger.after t.meanwhile)
      ⟨.after t.name t.action t.outcome, t.answer, t.ended⟩ := by
  rw [t.split_prior] at ht
  rw [← t.after_prior]
  exact ht.follows

/-- What a transition captured was not in flight before. -/
theorem puts_own {own : AuditEntry} (ho : t.own? l = some own) :
    Call.Puts (l.after t.earlier) t.begun.current t.policy.entityType own
      ⟨.before t.name t.action t.subject, Except.ok (), t.begun⟩ := by
  have hplace := t.place_of_own? l ho
  refine ⟨hplace, fun hbefore => ?_⟩
  have hsame : t.place t.begun.ledger = t.place (l.after t.earlier) := hplace.trans hbefore.symm
  rw [own?, if_pos hsame] at ho
  cases ho

/-- What a transition captured is about the changes of its own subject. -/
theorem captures_own (ht : Traced h l calls) {own : AuditEntry} (ho : t.own? l = some own) :
    Call.Captures h t.begun.current t.policy.entityType own
      ⟨.before t.name t.action t.subject, Except.ok (), t.begun⟩ :=
  (t.follows_first ht).captures (t.puts_own ho)

/-- The last call persists what is in flight, if it is of the same action. -/
theorem answer_eq (ht : Traced h l calls) :
    (t.answer = .ok none ∧ ∀ c, t.pending? = some c → c.action ≠ t.action) ∨
    ∃ c now, t.pending? = some c ∧ c.action = t.action ∧
      t.answer = (t.policy.store.receive (c.finished t.outcome now)
        (t.begun.ledger.after t.meanwhile).media).1.mapError PolicyError.audit := by
  rcases (t.follows_last ht).after_cases t.known with hnone | ⟨c, now, hin, ha, hx⟩
  · rw [t.same] at hnone
    exact .inl hnone
  · rw [t.same] at hin
    exact .inr ⟨c, now, hin, ha, hx⟩

/-- What is persisted is what was in flight, completed. -/
theorem pending?_of_answer (ht : Traced h l calls) {e : AuditEntry} (he : t.answer = .ok (some e)) :
    ∃ c now, t.pending? = some c ∧ c.action = t.action ∧ e = c.finished t.outcome now := by
  rcases t.answer_eq ht with ⟨hnone, _⟩ | ⟨c, now, hpending, ha, hx⟩
  · rw [hnone] at he
    cases he
  · refine ⟨c, now, hpending, ha, ?_⟩
    rw [hx] at he
    cases hreceive : (t.policy.store.receive (c.finished t.outcome now)
      (t.begun.ledger.after t.meanwhile).media).1 with
    | error error =>
        rw [hreceive] at he
        cases he
    | ok x =>
        rw [hreceive] at he
        have hsome : x = some e := Except.ok.inj he
        exact Option.some.inj (hsome.symm.trans (Store.receive_ok hreceive))

/-- **When a transition commits its own capture**: exactly when, as often as it persists something,
what is in flight at its end is what its own first call captured. -/
theorem commitsOwn_iff (ht : Traced h l calls) :
    t.CommitsOwn l ↔ ∀ e, t.answer = .ok (some e) →
      ∃ c own, t.pending? = some c ∧ t.own? l = some own ∧ c.Completes own := by
  constructor
  · intro hcommits e he
    obtain ⟨c, now, hpending, _, rfl⟩ := t.pending?_of_answer ht he
    obtain ⟨own, hown, hcompletes⟩ := hcommits _ he
    exact ⟨c, own, hpending, hown, hcompletes.id, hcompletes.changes, hcompletes.actorId,
      hcompletes.actorType, hcompletes.message⟩
  · intro hagree e he
    obtain ⟨c, now, hpending, _, rfl⟩ := t.pending?_of_answer ht he
    obtain ⟨c', own, hpending', hown, hcompletes⟩ := hagree _ he
    obtain rfl := Option.some.inj (hpending.symm.trans hpending')
    exact ⟨own, hown, hcompletes.id, hcompletes.changes, hcompletes.actorId,
      hcompletes.actorType, hcompletes.message⟩

/-- A transition that captured something and that nothing disturbs commits its own capture. -/
theorem commitsOwn_of_undisturbed (ht : Traced h l calls) (hu : t.Undisturbed) {own : AuditEntry}
    (ho : t.own? l = some own) : t.pending? = some own ∧ t.CommitsOwn l := by
  have hpending : t.pending? = some own :=
    (t.pending?_of_undisturbed hu).trans (t.place_of_own? l ho)
  exact ⟨hpending, (t.commitsOwn_iff ht).mpr fun e _ =>
    ⟨own, own, hpending, ho, rfl, rfl, rfl, rfl, rfl⟩⟩

theorem source_of_pending (ht : Traced h l calls) {c : AuditEntry} (hc : t.pending? = some c) :
    Kept t.begun.current t.policy.entityType c l t.prior ∨
    ∃ before source after, t.prior = before ++ source :: after ∧
      source.Captures h t.begun.current t.policy.entityType c ∧
      Kept t.begun.current t.policy.entityType c source.world.ledger after := by
  refine (t.traced_prior ht).source ?_
  rw [t.after_prior]
  exact hc

/-- Where identifiers are distinct, only what the transition itself captured, and nothing disturbed
since, completes its own capture. -/
theorem undisturbed_of_completes (hd : DistinctIds l calls) {c own : AuditEntry}
    (hc : t.pending? = some c) (ho : t.own? l = some own) (hid : c.id = own.id) :
    t.Undisturbed := by
  rcases kept_or_put hc with hkept | ⟨before, source, after, hsplit, hputs, -⟩
  · intro first rest heq
    rw [show t.place (t.begun.ledger.after first) = some c from hkept first rest heq,
      show t.place t.begun.ledger = some c from hkept [] t.meanwhile rfl]
  · -- Another call has put it there meanwhile, so it has another identifier.
    have hcalls := t.split
    rw [hsplit, List.append_assoc, List.cons_append] at hcalls
    exact absurd hid.symm (hd _ _ _ _ _ _ _ _ _ _ _ hcalls (t.puts_own ho) hputs)

/-- **Only undisturbed transitions commit their own captures**, where identifiers are distinct. -/
theorem commitsOwn_iff_undisturbed (ht : Traced h l calls) (hd : DistinctIds l calls) :
    t.CommitsOwn l ↔ ∀ e, t.answer = .ok (some e) → (t.own? l).isSome ∧ t.Undisturbed := by
  rw [t.commitsOwn_iff ht]
  constructor
  · intro hagree e he
    obtain ⟨c, own, hc, ho, hcompletes⟩ := hagree e he
    exact ⟨by rw [ho]; rfl, t.undisturbed_of_completes hd hc ho hcompletes.id⟩
  · intro hundisturbed e he
    obtain ⟨hsome, hu⟩ := hundisturbed e he
    obtain ⟨own, ho⟩ := Option.isSome_iff_exists.mp hsome
    exact ⟨own, own, (t.pending?_of_undisturbed hu).trans (t.place_of_own? l ho), ho, rfl, rfl, rfl,
      rfl, rfl⟩

/-- A transition that captured nothing, that nothing disturbs and that begins with nothing of its
action in flight persists nothing. -/
theorem answer_of_undisturbed (ht : Traced h l calls) (hu : t.Undisturbed) (ho : t.own? l = none)
    (hbefore : ∀ c, t.place (l.after t.earlier) = some c → c.action ≠ t.action) :
    t.answer = .ok none := by
  rcases t.answer_eq ht with ⟨hnone, _⟩ | ⟨c, now, hpending, ha, _⟩
  · exact hnone
  · rw [t.pending?_of_undisturbed hu] at hpending
    by_cases hsame : t.place t.begun.ledger = t.place (l.after t.earlier)
    · exact absurd ha (hbefore c (hsame.symm.trans hpending))
    · rw [own?, if_neg hsame, hpending] at ho
      cases ho

end Transition

/-! ## Runs -/

namespace Host

/-- **What transitions commit.**  In every run, a transition persists what is in flight at its end,
and that is its own capture exactly if the two agree.  Identifiers are distinct while the supply
lasts, and where they are, the two agree exactly if the transition captured something and no call in
the meantime changed what is in flight for the type.  Whatever else is persisted was captured by
another call, or was in flight before the run. -/
theorem transitions_run (h : Host π μ) (depth : Nat) {α : Type} (p : Program α) (w : Work) :
    ∃ calls, (h.run depth p w).2.calls = w.calls ++ calls ∧
      ((h.run depth p w).2.serial ≤ Uuid.supply → DistinctIds w.ledger calls) ∧
      ∀ t : Transition h calls,
      (∀ e, t.answer = .ok (some e) → ∃ c now, t.pending? = some c ∧ c.action = t.action ∧
        e = c.finished t.outcome now) ∧
      (∀ own, t.own? w.ledger = some own →
        Call.Captures h t.begun.current t.policy.entityType own
          ⟨.before t.name t.action t.subject, Except.ok (), t.begun⟩) ∧
      (t.CommitsOwn w.ledger ↔ ∀ e, t.answer = .ok (some e) →
        ∃ c own, t.pending? = some c ∧ t.own? w.ledger = some own ∧ c.Completes own) ∧
      (DistinctIds w.ledger calls → (t.CommitsOwn w.ledger ↔ ∀ e, t.answer = .ok (some e) →
        (t.own? w.ledger).isSome ∧ t.Undisturbed)) ∧
      (∀ own, t.own? w.ledger = some own → t.Undisturbed →
        t.pending? = some own ∧ t.CommitsOwn w.ledger) ∧
      (t.own? w.ledger = none → t.Undisturbed →
        (∀ c, t.place (w.ledger.after t.earlier) = some c → c.action ≠ t.action) →
        t.answer = .ok none) ∧
      ∀ c, t.pending? = some c →
        Kept t.begun.current t.policy.entityType c w.ledger t.prior ∨
        ∃ before source after, t.prior = before ++ source :: after ∧
          source.Captures h t.begun.current t.policy.entityType c ∧
          Kept t.begun.current t.policy.entityType c source.world.ledger after := by
  obtain ⟨calls, hcalls, ht, -⟩ := h.traced_run depth p w
  obtain ⟨calls', hcalls', hsupplied, -⟩ := h.supplied_run depth p w
  obtain rfl : calls = calls' := List.append_cancel_left (hcalls.symm.trans hcalls')
  exact ⟨calls, hcalls, hsupplied.distinctIds, fun t => ⟨fun e he => t.pending?_of_answer ht he,
    fun own ho => t.captures_own ht ho, t.commitsOwn_iff ht, t.commitsOwn_iff_undisturbed ht,
    fun own ho hu => t.commitsOwn_of_undisturbed ht hu ho,
    fun ho hu hbefore => t.answer_of_undisturbed ht hu ho hbefore,
    fun c hc => t.source_of_pending ht hc⟩⟩

/-! ### A capture that is left behind -/

instance : (c : Command) → DecidableEq c.Answer
  | .actor => inferInstanceAs (DecidableEq (Option Actor))
  | .isEnforcing => inferInstanceAs (DecidableEq Bool)
  | .isAuditing => inferInstanceAs (DecidableEq Bool)
  | .isSecurityBypassed _ => inferInstanceAs (DecidableEq Bool)
  | .isAuditBypassed _ => inferInstanceAs (DecidableEq Bool)
  | .hasInFlight _ => inferInstanceAs (DecidableEq Bool)
  | .setActor _ => inferInstanceAs (DecidableEq Unit)
  | .reset => inferInstanceAs (DecidableEq Unit)
  | .label _ => inferInstanceAs (DecidableEq Unit)
  | .checkAction .. => inferInstanceAs (DecidableEq (Except Denial Unit))
  | .checkAttributes .. => inferInstanceAs (DecidableEq (Except Denial Unit))
  | .isGranted .. => inferInstanceAs (DecidableEq Bool)
  | .isAttributeGranted .. => inferInstanceAs (DecidableEq Bool)
  | .granted .. => inferInstanceAs (DecidableEq (List Action × List String))
  | .before .. => inferInstanceAs (DecidableEq (Except PolicyError Unit))
  | .after .. => inferInstanceAs (DecidableEq (Except PolicyError (Option AuditEntry)))
  | .abandon _ => inferInstanceAs (DecidableEq Unit)
  | .afterFind .. => inferInstanceAs (DecidableEq (Except PolicyError (Option AuditEntry)))
  | .beforeAssociation .. => inferInstanceAs (DecidableEq (Except PolicyError Unit))

deriving instance DecidableEq for Call

/-- The update of one note fails after its capture, which is left behind.  Then another note is
updated while auditing is off. -/
def updateAfterFailure : Program (Except PolicyError (Option AuditEntry)) :=
  .ask (.before "notes" .update (note "1" "a")) fun _ =>
    .within .audit
      (.ask (.before "notes" .update (note "2" "b")) fun _ =>
        .ask (.after "notes" .update (note "2" "b")) .done)
      .done

/-- The work when both updates are over. -/
def afterFailure : Work := (noteHost.run 1 updateAfterFailure (.start .epoch)).2

/-- The update of the second note. -/
def unauditedUpdate : Transition noteHost afterFailure.calls where
  earlier := afterFailure.calls.take 1
  meanwhile := []
  later := []
  name := "notes"
  policy := notePolicy
  action := .update
  subject := note "2" "b"
  outcome := note "2" "b"
  answer := .ok (some ((AuditEntry.unfinished (.ofSerial 0) .epoch .update (note "1" "a") none
    (note "1" "a").changes none).finished (note "2" "b") .epoch))
  begun := (afterFailure.calls[1]?.map Call.world).getD afterFailure.toWorld
  ended := (afterFailure.calls[2]?.map Call.world).getD afterFailure.toWorld
  known := rfl
  same := by decide +kernel
  split := by decide +kernel

/-- **Transitions do commit the captures of others.**  The second update captures nothing, and
persists the changes of the first note as changes of the second. -/
theorem unauditedUpdate_commits_other :
    unauditedUpdate.own? (Work.start .epoch).ledger = none ∧
    (∃ e, unauditedUpdate.answer = .ok (some e) ∧ e.subjectId = "2" ∧
      e.changes = some (note "1" "a").changes) ∧
    ¬ unauditedUpdate.CommitsOwn (Work.start .epoch).ledger := by
  have hown : unauditedUpdate.own? (Work.start .epoch).ledger = none := by decide +kernel
  refine ⟨hown, ⟨_, rfl, by decide +kernel, by decide +kernel⟩, fun hcommits => ?_⟩
  obtain ⟨own, ho, _⟩ := hcommits _ rfl
  rw [hown] at ho
  cases ho

end Host

end LifecycleGuard
