import LifecycleGuard.Proofs.Permission.Consultation
import LifecycleGuard.Proofs.Permission.Registration

/-!
# What decides a check

A check of an action or of an association is decided by three things: the context that it begins
in, the predicates that the history of registrations grants for its target, and what these
predicates answer.

**One check.**  `Decided` says all of it for a single check.  Where the check is bypassed it
succeeds and no predicate is asked, so it does not even matter what the predicates mean.
Otherwise the predicates are asked one after the other, and the check does what comes of that.
`decided_checkTarget` proves it once for all targets.

**All histories.**  `decided_of_history` puts the check together with the history.  A registration
that is made later is only asked where all before it refuse, so it cannot take away what was
granted; one that fails leaves no trace in the book.
-/

namespace LifecycleGuard.Evaluator

variable {π : Type}

/-- Where nothing of an entity is asked: enforcement is off altogether, for the type of the entity
or for the type of the evaluator. -/
def Unasked (type : String) (subject : Entity) (c : Context) : Prop :=
  c.enforcing = false ∨ SortedSet.mem c.securityOff subject.type = true ∨
    SortedSet.mem c.securityOff type = true

/-- Some predicate permits when its turn comes, after all before it refused. -/
def PermittedInTurn (judge : π → Request → Run Bool) (r : Request) (ps : List π) (w : Work) :
    Prop :=
  ∃ before p after cs w₁, ps = before ++ p :: after ∧ Asked judge r before w cs (.ok false) w₁ ∧
    (judge p r (w₁.entering .enforcement)).1 = .ok true

/-- A check that predicates decide in their order.  The check is given for every meaning that the
predicates could have, so that it can be said which of them it does not depend on. -/
structure Decided (judge : π → Request → Run Bool) (type : String) (ps : List π) (r : Request)
    (denial : Denial) (check : (π → Request → Run Bool) → Run (Except Denial Unit)) (w : Work) :
    Prop where
  /-- It succeeds if it is bypassed or somebody permits, and in no other case. -/
  succeeds_iff : (check judge w).1 = .ok (.ok ()) ↔
    Unasked type r.subject w.context ∨ PermittedInTurn judge r ps w
  /-- Where nobody fails and what everybody answers depends on the request only, somebody permits in
  turn if anybody permits at all. -/
  succeeds_iff_exists : ∀ answer : π → Bool, (∀ p ∈ ps, ∀ w, (judge p r w).1 = .ok (answer p)) →
    ((check judge w).1 = .ok (.ok ()) ↔
      Unasked type r.subject w.context ∨ ∃ p ∈ ps, answer p = true)
  /-- Where it is bypassed, nobody is asked. -/
  unasked : Unasked type r.subject w.context →
    (check judge w).2.toWorld = w.toWorld ∧ ∀ judge', check judge' w = check judge w
  /-- Where it is not, some are asked in order, all the same and with enforcement off.  All but
  the last refuse, the last one settles the answer, and nobody else matters. -/
  asked : ¬ Unasked type r.subject w.context → ∃ cs x w₁, Asked judge r ps w cs x w₁ ∧
    (check judge w).1 = x.map (fun permitted => if permitted then .ok () else .error denial) ∧
    (check judge w).2.toWorld = w₁.toWorld ∧
    cs.map Consultation.predicate <+: ps ∧
    (∀ c ∈ cs, c.request = r ∧ c.found.context.enforcing = false) ∧
    (∀ c ∈ cs.dropLast, (c.answer judge).1 = .ok false) ∧
    x = (cs.getLast?.map fun c => (c.answer judge).1).getD (.ok false) ∧
    (x = .ok false → cs.map Consultation.predicate = ps) ∧
    ∀ judge', (∀ c ∈ cs, c.answer judge' = c.answer judge) → check judge' w = check judge w
  /-- Where it is not and there is nobody to ask, it is denied. -/
  nobody : ¬ Unasked type r.subject w.context → ps = [] → (check judge w).1 = .ok (.error denial)

/-! ## One check -/

theorem bypassed_iff (e : Evaluator π) (subject : Entity) (c : Context) :
    e.bypassed subject c = true ↔ Unasked e.entityType subject c := by
  unfold bypassed Context.isSecurityBypassed Unasked
  cases c.enforcing <;> simp

/-- Where what predicates answer depends on the request only, and none of them fails, it does not
matter when their turn comes. -/
theorem permittedInTurn_iff_exists {judge : π → Request → Run Bool} {r : Request}
    {answer : π → Bool} {ps : List π}
    (h : ∀ p ∈ ps, ∀ w, (judge p r w).1 = .ok (answer p)) (w : Work) :
    PermittedInTurn judge r ps w ↔ ∃ p ∈ ps, answer p = true := by
  constructor
  · rintro ⟨before, p, after, _, w₁, rfl, -, hp⟩
    have hmem : p ∈ before ++ p :: after := List.mem_append_right _ List.mem_cons_self
    exact ⟨p, hmem, Except.ok.inj ((h p hmem _).symm.trans hp)⟩
  · induction ps generalizing w with
    | nil => simp
    | cons q ps ih =>
        rintro ⟨p, hmem, hp⟩
        rcases hq : judge q r (w.entering .enforcement) with ⟨x, w₁⟩
        have hx : x = .ok (answer q) := by rw [← h q List.mem_cons_self (w.entering .enforcement), hq]
        cases hanswer : answer q with
        | true => exact ⟨[], q, ps, [], w, rfl, .nobody, by rw [hq, hx, hanswer]⟩
        | false =>
            have hrest : p ∈ ps := by
              rcases List.mem_cons.mp hmem with rfl | hrest
              · exact absurd (hp.symm.trans hanswer) (by simp)
              · exact hrest
            obtain ⟨before, p', after, cs, w₂, rfl, hasked, hp'⟩ :=
              ih (fun p hp => h p (List.mem_cons_of_mem q hp)) (w₁.leaving .enforcement w)
                ⟨p, hrest, hp⟩
            exact ⟨q :: before, p', after, _, w₂, rfl, .refused (by rw [hq, hx, hanswer]) hasked,
              hp'⟩

section Target

variable {judge : π → Request → Run Bool} {e : Evaluator π} {t : RuleTarget} {subject : Entity}
  {associated : Option Entity} {action : String} {relation : Option String}
  {evaluated : Option Actor → Bool → Event} {denial : Option Actor → Denial}

theorem checkTarget_of_unasked {w : Work} (h : Unasked e.entityType subject w.context) :
    checkTarget judge e t subject associated action relation evaluated denial w
      = (.ok (.ok ()),
        { w with events := w.events ++ [.enforcementBypassed action relation e.entityType] }) := by
  rw [checkTarget, Run.context_bind, if_pos ((bypassed_iff e subject _).mpr h)]
  rfl

variable (judge e t subject associated action relation evaluated denial) in
/-- The check does what comes of the asking. -/
theorem checkTarget_of_asked {w w₁ : Work} {cs : List (Consultation π)} {x : Except Interrupt Bool}
    (h : ¬ Unasked e.entityType subject w.context)
    (hasked : Asked judge ⟨w.context.actor, subject, associated⟩
      ((e.book.rulesFor t).map Rule.predicate) w cs x w₁) :
    ∃ events, checkTarget judge e t subject associated action relation evaluated denial w
      = (x.map (fun permitted => if permitted then .ok () else .error (denial w.context.actor)),
        { w₁ with events }) := by
  have hbypassed : ¬ e.bypassed subject w.context = true := fun hb =>
    h ((bypassed_iff e subject _).mp hb)
  rw [checkTarget, Run.context_bind, if_neg hbypassed]
  cases x with
  | error i => exact ⟨_, Run.bind_of_error hasked.anyPermits_eq _⟩
  | ok permitted =>
      rw [Run.bind_of_ok hasked.anyPermits_eq, Run.note_bind]
      cases permitted with
      | true => exact ⟨_, rfl⟩
      | false => exact ⟨_, rfl⟩

/-- The check depends on the rules and on what they mean through the asking only. -/
theorem checkTarget_congr {judge' : π → Request → Run Bool} {e' : Evaluator π} {w : Work}
    (htype : e'.entityType = e.entityType)
    (h : ¬ Unasked e.entityType subject w.context →
      anyPermits judge' ⟨w.context.actor, subject, associated⟩ (e'.book.rulesFor t) w
        = anyPermits judge ⟨w.context.actor, subject, associated⟩ (e.book.rulesFor t) w) :
    checkTarget judge' e' t subject associated action relation evaluated denial w
      = checkTarget judge e t subject associated action relation evaluated denial w := by
  have hsame : e'.bypassed subject w.context = e.bypassed subject w.context := by
    rw [bypassed, bypassed, htype]
  rw [checkTarget, checkTarget, Run.context_bind, Run.context_bind, hsame, htype]
  by_cases hb : e.bypassed subject w.context = true
  · rw [if_pos hb, if_pos hb]
  · rw [if_neg hb, if_neg hb]
    exact Run.bind_congr (h fun hu => hb ((bypassed_iff e subject _).mpr hu)) _

variable (judge e t subject associated action relation evaluated denial) in
/-- **A check is decided by the predicates of its rules.** -/
theorem decided_checkTarget (w : Work) :
    Decided judge e.entityType ((e.book.rulesFor t).map Rule.predicate)
      ⟨w.context.actor, subject, associated⟩ (denial w.context.actor)
      (fun judge => checkTarget judge e t subject associated action relation evaluated denial)
      w := by
  obtain ⟨cs, hcs⟩ := asked_anyPermits judge ⟨w.context.actor, subject, associated⟩
    (e.book.rulesFor t) w
  generalize (anyPermits judge _ (e.book.rulesFor t) w).1 = x at hcs
  generalize (anyPermits judge _ (e.book.rulesFor t) w).2 = w₁ at hcs
  have hsucceeds : (checkTarget judge e t subject associated action relation evaluated denial w).1
      = .ok (.ok ()) ↔ Unasked e.entityType subject w.context ∨
        PermittedInTurn judge ⟨w.context.actor, subject, associated⟩
          ((e.book.rulesFor t).map Rule.predicate) w := by
    by_cases h : Unasked e.entityType subject w.context
    · rw [checkTarget_of_unasked h]
      exact iff_of_true rfl (.inl h)
    · obtain ⟨events, heq⟩ := checkTarget_of_asked judge e t subject associated action relation
        evaluated denial h hcs
      rw [heq, or_iff_right h]
      refine Iff.trans ?_ asked_true_iff
      constructor
      · intro hok
        rcases x with i | permitted
        · cases hok
        · cases permitted with
          | true => exact ⟨cs, w₁, hcs⟩
          | false => cases hok
      · rintro ⟨ds, w₂, hds⟩
        obtain ⟨_, rfl, _⟩ := hcs.unique hds
        rfl
  refine ⟨hsucceeds, fun answer hanswer =>
    hsucceeds.trans (or_congr_right (permittedInTurn_iff_exists hanswer w)), fun h => ?_,
    fun h => ?_, fun h hps => ?_⟩
  · refine ⟨?_, fun judge' => ?_⟩
    · rw [checkTarget_of_unasked h]
    · rw [checkTarget_of_unasked h, checkTarget_of_unasked h]
  · obtain ⟨events, heq⟩ := checkTarget_of_asked judge e t subject associated action relation
      evaluated denial h hcs
    refine ⟨cs, x, w₁, hcs, congrArg Prod.fst heq, ?_, hcs.order, hcs.enforcing, hcs.refuses,
      hcs.last, hcs.all, fun judge' hsame => ?_⟩
    · rw [heq]
    · exact checkTarget_congr rfl fun _ =>
        (hcs.congr hsame).anyPermits_eq.trans hcs.anyPermits_eq.symm
  · have hnobody : Asked judge ⟨w.context.actor, subject, associated⟩
        ((e.book.rulesFor t).map Rule.predicate) w [] (.ok false) w := by
      rw [hps]
      exact .nobody
    obtain ⟨events, heq⟩ := checkTarget_of_asked judge e t subject associated action relation
      evaluated denial h hnobody
    rw [heq]
    rfl

/-- Rules that are added behind the others do not matter to a check that succeeds. -/
theorem checkTarget_append {e' : Evaluator π} {added : List (Rule π)} {w : Work}
    (htype : e'.entityType = e.entityType)
    (hrules : e'.book.rulesFor t = e.book.rulesFor t ++ added)
    (hok : (checkTarget judge e t subject associated action relation evaluated denial w).1
      = .ok (.ok ())) :
    checkTarget judge e' t subject associated action relation evaluated denial w
      = checkTarget judge e t subject associated action relation evaluated denial w := by
  refine checkTarget_congr htype fun h => ?_
  obtain ⟨cs, hcs⟩ := asked_anyPermits judge ⟨w.context.actor, subject, associated⟩
    (e.book.rulesFor t) w
  obtain ⟨events, heq⟩ := checkTarget_of_asked judge e t subject associated action relation
    evaluated denial h hcs
  have hyes : (anyPermits judge ⟨w.context.actor, subject, associated⟩ (e.book.rulesFor t) w).1
      ≠ .ok false := by
    intro hno
    rw [heq, hno] at hok
    cases hok
  have hmore := hcs.append hyes (added.map Rule.predicate)
  rw [← List.map_append, ← hrules] at hmore
  exact hmore.anyPermits_eq

end Target

theorem decided_checkAction (judge : π → Request → Run Bool) (e : Evaluator π) (a : Action)
    (subject : Entity) (w : Work) :
    Decided judge e.entityType ((e.book.rulesFor (.action a)).map Rule.predicate)
      ⟨w.context.actor, subject, none⟩
      (.action a.name (Actor.describe w.context.actor) subject.describe)
      (fun judge => e.checkAction judge a subject) w :=
  decided_checkTarget judge e (.action a) subject none a.name none
    (fun actor => .evaluatedAction a subject.describe (Actor.describe actor))
    (fun actor => .action a.name (Actor.describe actor) subject.describe) w

theorem decided_checkAssociation (judge : π → Request → Run Bool) (e : Evaluator π)
    (k : AssociationAction) (relation : String) (subject associated : Entity) (w : Work) :
    Decided judge e.entityType ((e.book.rulesFor (.association k relation)).map Rule.predicate)
      ⟨w.context.actor, subject, some associated⟩
      (.association k.name relation associated.describe (Actor.describe w.context.actor)
        subject.describe)
      (fun judge => e.checkAssociation judge k relation subject associated) w :=
  decided_checkTarget judge e (.association k relation) subject (some associated) k.name
    (some relation) (fun _ => .evaluatedAssociation k relation subject.describe associated.describe)
    (fun actor =>
      .association k.name relation associated.describe (Actor.describe actor) subject.describe) w

/-! ## All histories -/

/-- The evaluator that a history of registrations leaves. -/
def ofHistory (type : String) (schema : Option Schema) (history : List (Registration π)) :
    Evaluator π :=
  ⟨type, Registration.replay type (.blank schema) history⟩

/-- What a history grants for a target. -/
def grantedBy (type : String) (schema : Option Schema) (history : List (Registration π))
    (t : RuleTarget) : List π :=
  Registration.granted type t (.blank schema) history

theorem predicates_ofHistory (type : String) (schema : Option Schema)
    (history : List (Registration π)) (t : RuleTarget) :
    ((ofHistory type schema history).book.rulesFor t).map Rule.predicate
      = grantedBy type schema history t := by
  show ((Registration.replay type (.blank schema) history).rulesFor t).map Rule.predicate = _
  rw [RuleBook.rulesFor_replay, List.map_append, List.map_map]
  exact (List.nil_append _).trans (List.map_id _)

/-- The rules of a longer history begin with those of the shorter one. -/
theorem rulesFor_ofHistory_append (type : String) (schema : Option Schema)
    (history more : List (Registration π)) (t : RuleTarget) :
    ∃ added, (ofHistory type schema (history ++ more)).book.rulesFor t
      = (ofHistory type schema history).book.rulesFor t ++ added := by
  refine ⟨(Registration.granted type t (Registration.replay type (.blank schema) history)
    more).map (Rule.mk t), ?_⟩
  show (Registration.replay type (.blank schema) (history ++ more)).rulesFor t = _
  rw [RuleBook.replay_append, RuleBook.rulesFor_replay]
  rfl

/-- **Checks are decided by the history of registrations.**  Actions and associations are decided by
what the calls that succeeded grant for exactly their target.  What is permitted stays permitted
when calls are added, down to the last event; a call that fails changes nothing. -/
theorem decided_of_history (judge : π → Request → Run Bool) (type : String)
    (schema : Option Schema) (history more : List (Registration π)) (subject : Entity) (w : Work) :
    (∀ a, Decided judge type (grantedBy type schema history (.action a))
      ⟨w.context.actor, subject, none⟩
      (.action a.name (Actor.describe w.context.actor) subject.describe)
      (fun judge => (ofHistory type schema history).checkAction judge a subject) w) ∧
    (∀ k relation associated,
      Decided judge type (grantedBy type schema history (.association k relation))
        ⟨w.context.actor, subject, some associated⟩
        (.association k.name relation associated.describe (Actor.describe w.context.actor)
          subject.describe)
        (fun judge =>
          (ofHistory type schema history).checkAssociation judge k relation subject associated)
        w) ∧
    (∀ a, ((ofHistory type schema history).checkAction judge a subject w).1 = .ok (.ok ()) →
      (ofHistory type schema (history ++ more)).checkAction judge a subject w
        = (ofHistory type schema history).checkAction judge a subject w) ∧
    (∀ k relation associated,
      ((ofHistory type schema history).checkAssociation judge k relation subject associated w).1
        = .ok (.ok ()) →
      (ofHistory type schema (history ++ more)).checkAssociation judge k relation subject
          associated w
        = (ofHistory type schema history).checkAssociation judge k relation subject associated
            w) ∧
    ∀ c, Registration.succeeds type (Registration.replay type (.blank schema) history) c = false →
      ofHistory type schema (history ++ c :: more) = ofHistory type schema (history ++ more) := by
  refine ⟨fun a => ?_, fun k relation associated => ?_, fun a hok => ?_,
    fun k relation associated hok => ?_, fun c hc => ?_⟩
  · rw [← predicates_ofHistory]
    exact decided_checkAction judge (ofHistory type schema history) a subject w
  · rw [← predicates_ofHistory]
    exact decided_checkAssociation judge (ofHistory type schema history) k relation subject
      associated w
  · obtain ⟨added, hadded⟩ := rulesFor_ofHistory_append type schema history more (.action a)
    exact checkTarget_append rfl hadded hok
  · obtain ⟨added, hadded⟩ :=
      rulesFor_ofHistory_append type schema history more (.association k relation)
    exact checkTarget_append rfl hadded hok
  · have hsame : Registration.replay type (.blank schema) (history ++ c :: more)
        = Registration.replay type (.blank schema) (history ++ more) := by
      rw [RuleBook.replay_append, RuleBook.replay_append]
      show Registration.replay type (c.apply type _) more = _
      rw [RuleBook.apply_of_not_succeeds hc]
    rw [ofHistory, hsame, ofHistory]

end LifecycleGuard.Evaluator
