import LifecycleGuard.Proofs.Host.Reach

/-!
# What the calls of a run say about captures

Of everything that a run does to its work, audit looks at two things only: what is in flight in each
context, and what stands on the media.  A `Ledger` is these two.

**One call.**  `Call.Follows` is a step relation on ledgers: it says which call, with which answer,
turns which ledger into which.  Captures are put in flight by a call before a mutation, and taken
out by a call after it, by giving up, and by a reset; entries are written by a call after a mutation
or a find.  All other calls leave the ledger as it is.

**All calls.**  `Traced` says that every call of a list follows from the ledger which the one before
it left.  `Host.traced_run` says that of the calls that any run makes, at every depth: whatever
happens between two calls that are taken down one after the other does not touch the ledger.
-/

namespace LifecycleGuard

/-- What is in flight, by the name of the context and the entity type, and what was written. -/
@[ext]
structure Ledger where
  inFlight : String → String → Option AuditEntry
  media : Media

namespace Ledger

/-- The ledger with another entry, or none, in flight in one place. -/
def put (l : Ledger) (name type : String) (e : Option AuditEntry) : Ledger :=
  { l with inFlight := fun n t => if n = name ∧ t = type then e else l.inFlight n t }

/-- The ledger with nothing in flight in one context. -/
def clear (l : Ledger) (name : String) : Ledger :=
  { l with inFlight := fun n t => if n = name then none else l.inFlight n t }

/-- What is in flight when one place has got another entry was in flight before, or is that one. -/
theorem inFlight_of_put {l : Ledger} {name type n t : String} {o : Option AuditEntry}
    {e : AuditEntry} (h : (l.put n t o).inFlight name type = some e) :
    l.inFlight name type = some e ∨ (name = n ∧ type = t) ∧ o = some e := by
  by_cases hplace : name = n ∧ type = t
  · exact .inr ⟨hplace, (if_pos hplace).symm.trans h⟩
  · exact .inl ((if_neg hplace).symm.trans h)

theorem inFlight_of_put_none {l : Ledger} {name type n t : String} {e : AuditEntry}
    (h : (l.put n t none).inFlight name type = some e) : l.inFlight name type = some e :=
  (inFlight_of_put h).resolve_right nofun

theorem inFlight_of_clear {l : Ledger} {name type n : String} {e : AuditEntry}
    (h : (l.clear n).inFlight name type = some e) : l.inFlight name type = some e := by
  by_cases hname : name = n
  · exact nomatch (if_pos hname).symm.trans h
  · exact (if_neg hname).symm.trans h

/-- Whether something is true of every entry in flight. -/
def AllInFlight (P : AuditEntry → Prop) (l : Ledger) : Prop :=
  ∀ name type e, l.inFlight name type = some e → P e

namespace AllInFlight

variable {P : AuditEntry → Prop} {l : Ledger}

theorem put (hl : l.AllInFlight P) (name type : String) {e : Option AuditEntry}
    (he : ∀ e' ∈ e, P e') : (l.put name type e).AllInFlight P := by
  intro n t e' hin
  rcases inFlight_of_put hin with hbefore | ⟨-, hnew⟩
  · exact hl n t e' hbefore
  · exact he e' hnew

theorem clear (hl : l.AllInFlight P) (name : String) : (l.clear name).AllInFlight P :=
  fun n t e hin => hl n t e (inFlight_of_clear hin)

end AllInFlight

end Ledger

/-- The ledger of a world. -/
def World.ledger (w : World) : Ledger :=
  ⟨fun name type => (w.contextOf name).inFlight.get? type, w.media⟩

/-- The ledger after some calls. -/
def Ledger.after (l : Ledger) : List Call → Ledger
  | [] => l
  | c :: rest => c.world.ledger.after rest

variable {π μ : Type}

/-- A call, with its answer, that can be the next one after a ledger. -/
inductive Call.Follows (h : Host π μ) (l : Ledger) : Call → Prop where
  /-- A call that does nothing more than to answer. -/
  | idle {c : Command} {x : c.Answer} {w : World} : c.Idle x → w.ledger = l → Follows h l ⟨c, x, w⟩
  | actor {a : Option Actor} {w : World} : w.ledger = l → Follows h l ⟨.setActor a, (), w⟩
  | reset {w : World} : w.ledger = l.clear w.current → Follows h l ⟨.reset, (), w⟩
  /-- A mutation is captured.  What was in flight in its place is lost. -/
  | captured {name : String} {p : Policy π μ} {a : Action} {d : AuditDeclaration μ}
      {subject : Entity} {id : Uuid} {now : Instant} {actor : Option Actor}
      {message : Option String} {w : World} :
      h.policy? name = some p → a.isMutation = true → p.audits.declaration? a = some d →
      w.ledger = l.put w.current p.entityType (some (.unfinished id now a subject actor
        (d.filter.apply subject.changes) message)) →
      Follows h l ⟨.before name a subject, Except.ok (), w⟩
  /-- What is in flight is persisted, as an entry about the subject of this call. -/
  | committed {name : String} {p : Policy π μ} {a : Action} {e : AuditEntry} {subject : Entity}
      {now : Instant} {w : World} :
      h.policy? name = some p → l.inFlight w.current p.entityType = some e → e.action = a →
      w.ledger = { l.put w.current p.entityType none with
        media := (p.store.receive (e.finished subject now) l.media).2 } →
      Follows h l ⟨.after name a subject,
        (p.store.receive (e.finished subject now) l.media).1.mapError PolicyError.audit, w⟩
  /-- Nothing of this action is in flight. -/
  | uncommitted {name : String} {p : Policy π μ} {a : Action} {subject : Entity} {w : World} :
      h.policy? name = some p →
      (∀ e, l.inFlight w.current p.entityType = some e → e.action ≠ a) → w.ledger = l →
      Follows h l ⟨.after name a subject, Except.ok none, w⟩
  | abandoned {name : String} {p : Policy π μ} {w : World} : h.policy? name = some p →
      w.ledger = l.put w.current p.entityType none → Follows h l ⟨.abandon name, (), w⟩
  /-- A find is persisted. -/
  | recorded {name : String} {p : Policy π μ} {subject : Entity} {id : Uuid} {now : Instant}
      {actor : Option Actor} {message : Option String} {w : World} :
      h.policy? name = some p →
      w.ledger = { l with
        media := (p.store.receive (.found id now subject actor message) l.media).2 } →
      Follows h l ⟨.afterFind name subject,
        (p.store.receive (.found id now subject actor message) l.media).1.mapError
          PolicyError.audit, w⟩

/-- Every call of a list follows from the ledger that the calls before it left. -/
def Traced (h : Host π μ) : Ledger → List Call → Prop
  | _, [] => True
  | l, c :: rest => c.Follows h l ∧ Traced h c.world.ledger rest

/-! ## Lists of calls -/

theorem Ledger.after_append (calls more : List Call) :
    ∀ l : Ledger, l.after (calls ++ more) = (l.after calls).after more := by
  induction calls with
  | nil => exact fun l => rfl
  | cons c rest ih => exact fun l => ih c.world.ledger

theorem traced_append {h : Host π μ} {calls more : List Call} :
    ∀ {l : Ledger}, Traced h l (calls ++ more)
      ↔ Traced h l calls ∧ Traced h (l.after calls) more := by
  induction calls with
  | nil => exact fun {l} => ⟨fun ht => ⟨trivial, ht⟩, And.right⟩
  | cons c rest ih => exact fun {l} => (and_congr_right fun _ => ih).trans and_assoc.symm

/-- Every call of a traced list follows from what was before it. -/
theorem Traced.follows {h : Host π μ} {l : Ledger} {before after : List Call} {c : Call}
    (ht : Traced h l (before ++ c :: after)) : c.Follows h (l.after before) :=
  (traced_append.mp ht).2.1

/-! ## Ledgers of works -/

theorem World.inFlight_put (w : World) (name : String) (c : Context) (n t : String) :
    (w.put name c).ledger.inFlight n t
      = if n = name then c.inFlight.get? t else w.ledger.inFlight n t := by
  show ((w.put name c).contextOf n).inFlight.get? t = _
  rw [World.contextOf_put]
  by_cases hn : n = name
  · rw [if_pos hn, if_pos hn]
  · rw [if_neg hn, if_neg hn]
    rfl

/-- A context that has the same in flight does not change the ledger. -/
theorem World.ledger_put_of_inFlight {w : World} {name : String} {c : Context}
    (hc : c.inFlight = (w.contextOf name).inFlight) : (w.put name c).ledger = w.ledger := by
  refine Ledger.ext (funext fun n => funext fun t => ?_) rfl
  rw [World.inFlight_put]
  by_cases hn : n = name
  · rw [if_pos hn, hc, hn]
    rfl
  · rw [if_neg hn]

/-- A context that differs in one place changes the ledger in that place. -/
theorem World.ledger_put_of_get? {w : World} {name type : String} {c : Context}
    {e : Option AuditEntry}
    (hc : ∀ t, c.inFlight.get? t = if t = type then e else (w.contextOf name).inFlight.get? t) :
    (w.put name c).ledger = w.ledger.put name type e := by
  refine Ledger.ext (funext fun n => funext fun t => ?_) rfl
  rw [World.inFlight_put]
  show _ = if n = name ∧ t = type then e else w.ledger.inFlight n t
  by_cases hn : n = name
  · rw [if_pos hn, hc t, hn]
    by_cases ht : t = type
    · rw [if_pos ht, if_pos ⟨rfl, ht⟩]
    · rw [if_neg ht, if_neg fun h => ht h.2]
      rfl
  · rw [if_neg hn, if_neg fun h => hn h.1]

/-- A context with nothing in flight clears the ledger. -/
theorem World.ledger_put_of_empty {w : World} {name : String} {c : Context}
    (hc : ∀ t, c.inFlight.get? t = none) : (w.put name c).ledger = w.ledger.clear name := by
  refine Ledger.ext (funext fun n => funext fun t => ?_) rfl
  rw [World.inFlight_put, hc]
  rfl

namespace Work

variable (w : Work)

theorem ledger_entering (s : Scope) : (w.entering s).ledger = w.ledger :=
  World.ledger_put_of_inFlight (by cases s <;> rfl)

theorem ledger_leaving (s : Scope) (before : Work) : (w.leaving s before).ledger = w.ledger := by
  refine World.ledger_put_of_inFlight ?_
  generalize (s.enter before.context).1 = mark
  cases s <;> cases mark <;> rfl

theorem ledger_withActor (a : Option Actor) :
    (w.change fun c => c.withActor a).ledger = w.ledger :=
  World.ledger_put_of_inFlight rfl

theorem ledger_hold (type : String) (e : AuditEntry) :
    (w.change fun c => c.hold type e).ledger = w.ledger.put w.current type (some e) :=
  World.ledger_put_of_get? fun t => SortedMap.get?_insert _ type t e

theorem ledger_release (type : String) :
    (w.change fun c => c.release type).ledger = w.ledger.put w.current type none :=
  World.ledger_put_of_get? fun t => SortedMap.get?_erase _ type t

theorem ledger_reset : (w.change Context.reset).ledger = w.ledger.clear w.current :=
  World.ledger_put_of_empty fun _ => rfl

end Work

/-! ## All runs -/

/-- The calls made between two works are traced, and nothing else has changed the ledger. -/
def Work.Traced (h : Host π μ) (w w₁ : Work) : Prop :=
  ∃ calls, w₁.calls = w.calls ++ calls ∧ LifecycleGuard.Traced h w.ledger calls ∧
    w₁.ledger = w.ledger.after calls

namespace Work.Traced

variable {h : Host π μ} {w w₁ w₂ : Work}

theorem of_ledger (hcalls : w₁.calls = w.calls) (hledger : w₁.ledger = w.ledger) :
    Work.Traced h w w₁ :=
  ⟨[], hcalls.trans (List.append_nil _).symm, trivial, hledger⟩

theorem of_call {c : Call} (hcalls : w₁.calls = w.calls ++ [c])
    (hledger : w₁.ledger = c.world.ledger) (hc : c.Follows h w.ledger) : Work.Traced h w w₁ :=
  ⟨[c], hcalls, ⟨hc, trivial⟩, hledger⟩

theorem trans (ht : Work.Traced h w w₁) (ht' : Work.Traced h w₁ w₂) : Work.Traced h w w₂ := by
  obtain ⟨calls, hcalls, htraced, hledger⟩ := ht
  obtain ⟨more, hmore, htraced', hledger'⟩ := ht'
  rw [hledger] at htraced' hledger'
  refine ⟨calls ++ more, ?_, traced_append.mpr ⟨htraced, htraced'⟩, ?_⟩
  · rw [hmore, hcalls, List.append_assoc]
  · rw [hledger', Ledger.after_append]

end Work.Traced

namespace Host

variable {h : Host π μ}

/-- Whatever can happen is traced by its calls. -/
theorem traced_of_reaches {w w₁ : Work} (hreach : Reaches h w w₁) : Work.Traced h w w₁ := by
  induction hreach with
  | refl w => exact .of_ledger rfl rfl
  | trans _ _ ih ih' => exact ih.trans ih'
  | aside w => exact .of_ledger rfl rfl
  | @scope s w w₁ _ ih =>
      obtain ⟨calls, hcalls, htraced, hledger⟩ := ih
      rw [w.ledger_entering s] at htraced hledger
      exact ⟨calls, hcalls, htraced, (w₁.ledger_leaving s w).trans hledger⟩
  | turn _ _ ih => exact ih
  | idle w hc => exact .of_call rfl rfl (.idle hc rfl)
  | actor w a => exact .of_call rfl rfl (.actor (w.ledger_withActor a))
  | reset w => exact .of_call rfl rfl (.reset w.ledger_reset)
  | captured w subject now actor message hp ha hd =>
      exact .of_call rfl rfl (.captured hp ha hd (w.ledger_hold ..))
  | @committed name p a e w subject now hp he ha =>
      have hrelease := congrArg Ledger.inFlight (w.ledger_release p.entityType)
      exact .of_call rfl rfl (.committed hp he ha (Ledger.ext hrelease rfl))
  | uncommitted w subject hp hnone => exact .of_call rfl rfl (.uncommitted hp hnone rfl)
  | abandoned w hp => exact .of_call rfl rfl (.abandoned hp (w.ledger_release _))
  | recorded w subject now actor message hp =>
      exact .of_call rfl rfl (.recorded hp rfl)

/-- **The calls of a run tell all that it does to the ledger.** -/
theorem traced_run (h : Host π μ) (depth : Nat) {α : Type} (p : Program α) (w : Work) :
    Work.Traced h w (h.run depth p w).2 :=
  traced_of_reaches (h.reaches_run depth p w)

end Host

end LifecycleGuard
