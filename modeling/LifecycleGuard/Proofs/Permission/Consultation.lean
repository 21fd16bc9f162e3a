import LifecycleGuard.Permission.Evaluator
import LifecycleGuard.Proofs.Work.Run

/-!
# Which predicates are asked, and when

Predicates are host code: they may change the work that they are asked in, so it matters which of
them are asked, in which order, and what each of them finds.

`Asked` is the rule book of asking.  Predicates are asked in their order, each with enforcement
off; one that refuses passes the work on to the next; the first that does not refuse settles the
answer, and what comes after it is not asked.  The `Consultation`s are the record of it.

**The rules describe the evaluator.**  `asked_anyPermits` and `Asked.anyPermits_eq` say that the
evaluator asks as the rules say, and in no other way.

**What a record shows.**  `Asked.order`, `Asked.enforcing`, `Asked.refuses` and `Asked.last` read
off it the order, the bypass, and that the first that does not refuse ends the asking.
`Asked.congr` says that nothing besides the answers on record matters.
-/

namespace LifecycleGuard.Evaluator

variable {π : Type}

/-- A predicate that is asked, what it is asked about, and the work that it finds. -/
structure Consultation (π : Type) where
  predicate : π
  request : Request
  found : Work

/-- What a predicate answers when it is consulted. -/
def Consultation.answer (judge : π → Request → Run Bool) (c : Consultation π) :
    Except Interrupt Bool × Work :=
  judge c.predicate c.request c.found

/-- Asking predicates in their order about a request: the work that they are asked in, the
consultations that take place, what the answer is, and the work that they leave. -/
inductive Asked (judge : π → Request → Run Bool) (r : Request) :
    List π → Work → List (Consultation π) → Except Interrupt Bool → Work → Prop where
  /-- Where nobody is left to ask, the answer is no. -/
  | nobody {w : Work} : Asked judge r [] w [] (.ok false) w
  /-- After one that refuses, the next is asked. -/
  | refused {p : π} {ps : List π} {w w₁ w₂ : Work} {cs : List (Consultation π)}
      {x : Except Interrupt Bool} :
      judge p r (w.entering .enforcement) = (.ok false, w₁) →
      Asked judge r ps (w₁.leaving .enforcement w) cs x w₂ →
      Asked judge r (p :: ps) w (⟨p, r, w.entering .enforcement⟩ :: cs) x w₂
  /-- The first that does not refuse settles the answer. -/
  | settled {p : π} {ps : List π} {w w₁ : Work} {x : Except Interrupt Bool} :
      judge p r (w.entering .enforcement) = (x, w₁) → x ≠ .ok false →
      Asked judge r (p :: ps) w [⟨p, r, w.entering .enforcement⟩] x (w₁.leaving .enforcement w)

variable {judge : π → Request → Run Bool} {r : Request}

/-! ## The rules describe the evaluator -/

theorem permits_apply (rule : Rule π) (w : Work) :
    permits judge r rule w = ((judge rule.predicate r (w.entering .enforcement)).1,
      (judge rule.predicate r (w.entering .enforcement)).2.leaving .enforcement w) := rfl

variable (judge r) in
/-- Whatever rules are asked, the asking goes by the rules of `Asked`. -/
theorem asked_anyPermits : ∀ (rules : List (Rule π)) (w : Work),
    ∃ cs, Asked judge r (rules.map Rule.predicate) w cs
      (anyPermits judge r rules w).1 (anyPermits judge r rules w).2
  | [], w => ⟨[], .nobody⟩
  | rule :: rest, w => by
      rcases hj : judge rule.predicate r (w.entering .enforcement) with ⟨x, w₁⟩
      have hp : permits judge r rule w = (x, w₁.leaving .enforcement w) := by
        rw [permits_apply, hj]
      rcases x with i | permitted
      · rw [anyPermits, Run.bind_of_error hp]
        exact ⟨_, .settled hj (by simp)⟩
      · rw [anyPermits, Run.bind_of_ok hp]
        cases permitted with
        | true => exact ⟨_, .settled hj (by simp)⟩
        | false =>
            obtain ⟨cs, hcs⟩ := asked_anyPermits rest (w₁.leaving .enforcement w)
            exact ⟨_, .refused hj hcs⟩

/-- Asking goes in one way only. -/
theorem Asked.unique {ps : List π} {w w₁ w₂ : Work} {cs ds : List (Consultation π)}
    {x y : Except Interrupt Bool} (h : Asked judge r ps w cs x w₁)
    (h' : Asked judge r ps w ds y w₂) : cs = ds ∧ x = y ∧ w₁ = w₂ := by
  induction h generalizing ds with
  | nobody =>
      cases h'
      exact ⟨rfl, rfl, rfl⟩
  | refused hj _ ih =>
      cases h' with
      | refused hj' hrest =>
          obtain rfl := (Prod.mk.inj (hj.symm.trans hj')).2
          obtain ⟨rfl, rfl, rfl⟩ := ih hrest
          exact ⟨rfl, rfl, rfl⟩
      | settled hj' hne => exact absurd (Prod.mk.inj (hj'.symm.trans hj)).1 hne
  | settled hj hne =>
      cases h' with
      | refused hj' _ => exact absurd (Prod.mk.inj (hj.symm.trans hj')).1 hne
      | settled hj' _ =>
          obtain ⟨rfl, rfl⟩ := Prod.mk.inj (hj.symm.trans hj')
          exact ⟨rfl, rfl, rfl⟩

/-- What comes of asking by the rules is what comes of the evaluator. -/
theorem Asked.anyPermits_eq {rules : List (Rule π)} {w w₁ : Work} {cs : List (Consultation π)}
    {x : Except Interrupt Bool} (h : Asked judge r (rules.map Rule.predicate) w cs x w₁) :
    anyPermits judge r rules w = (x, w₁) := by
  obtain ⟨ds, hds⟩ := asked_anyPermits judge r rules w
  obtain ⟨_, hx, hw⟩ := h.unique hds
  exact Prod.ext hx.symm hw.symm

/-! ## What a record shows -/

variable {ps : List π} {w w₁ : Work} {cs : List (Consultation π)} {x : Except Interrupt Bool}

/-- Who is asked is asked in order, and nobody is passed over. -/
theorem Asked.order (h : Asked judge r ps w cs x w₁) :
    cs.map Consultation.predicate <+: ps := by
  induction h with
  | nobody => exact List.nil_prefix
  | refused _ _ ih => exact List.cons_prefix_cons.mpr ⟨rfl, ih⟩
  | settled _ _ => exact List.cons_prefix_cons.mpr ⟨rfl, List.nil_prefix⟩

/-- Everybody is asked the same, and with enforcement off. -/
theorem Asked.enforcing (h : Asked judge r ps w cs x w₁) :
    ∀ c ∈ cs, c.request = r ∧ c.found.context.enforcing = false := by
  have off : ∀ w : Work, (w.entering .enforcement).context.enforcing = false := fun w => by
    rw [Work.context_entering]
    rfl
  induction h with
  | nobody => simp
  | refused _ _ ih => exact List.forall_mem_cons.mpr ⟨⟨rfl, off _⟩, ih⟩
  | settled _ _ => exact List.forall_mem_cons.mpr ⟨⟨rfl, off _⟩, by simp⟩

/-- Everybody but the last refuses. -/
theorem Asked.refuses (h : Asked judge r ps w cs x w₁) :
    ∀ c ∈ cs.dropLast, (c.answer judge).1 = .ok false := by
  induction h with
  | nobody => simp
  | @refused p ps w w₁ w₂ cs x hj _ ih =>
      intro c hc
      cases cs with
      | nil => simp at hc
      | cons d ds =>
          rcases List.mem_cons.mp hc with rfl | hc
          · exact congrArg Prod.fst hj
          · exact ih c hc
  | settled _ _ => simp

/-- The answer is that of the last who is asked, and no if nobody is. -/
theorem Asked.last (h : Asked judge r ps w cs x w₁) :
    x = (cs.getLast?.map fun c => (c.answer judge).1).getD (.ok false) := by
  induction h with
  | nobody => rfl
  | @refused p ps w w₁ w₂ cs x hj hrest ih =>
      cases cs with
      | nil =>
          rw [ih]
          exact (congrArg Prod.fst hj).symm
      | cons d ds => exact ih
  | settled hj _ => exact (congrArg Prod.fst hj).symm

/-- If the answer is no, everybody is asked. -/
theorem Asked.all (h : Asked judge r ps w cs x w₁) (hx : x = .ok false) :
    cs.map Consultation.predicate = ps := by
  induction h with
  | nobody => rfl
  | refused _ _ ih => exact congrArg _ (ih hx)
  | settled _ hne => exact absurd hx hne

/-- **Only the answers on record matter.** -/
theorem Asked.congr {judge' : π → Request → Run Bool} (h : Asked judge r ps w cs x w₁)
    (heq : ∀ c ∈ cs, c.answer judge' = c.answer judge) : Asked judge' r ps w cs x w₁ := by
  induction h with
  | nobody => exact .nobody
  | refused hj _ ih =>
      obtain ⟨hc, hcs⟩ := List.forall_mem_cons.mp heq
      exact .refused (hc.trans hj) (ih hcs)
  | settled hj hne =>
      obtain ⟨hc, -⟩ := List.forall_mem_cons.mp heq
      exact .settled (hc.trans hj) hne

/-- Where the answer is not no, it does not matter who could be asked besides. -/
theorem Asked.append (h : Asked judge r ps w cs x w₁) (hx : x ≠ .ok false) (more : List π) :
    Asked judge r (ps ++ more) w cs x w₁ := by
  induction h with
  | nobody => exact absurd rfl hx
  | refused hj _ ih => exact .refused hj (ih hx)
  | settled hj hne => exact .settled hj hne

/-- **The answer is yes exactly if somebody permits at his turn**, after all before him refused. -/
theorem asked_true_iff : (∃ cs w₁, Asked judge r ps w cs (.ok true) w₁) ↔
    ∃ before p after cs w₁, ps = before ++ p :: after ∧ Asked judge r before w cs (.ok false) w₁ ∧
      (judge p r (w₁.entering .enforcement)).1 = .ok true := by
  constructor
  · rintro ⟨cs, w₁, h⟩
    generalize hx : (Except.ok true : Except Interrupt Bool) = x at h
    induction h with
    | nobody => cases hx
    | @refused p ps _ _ _ _ _ hj _ ih =>
        obtain ⟨before, q, after, ds, w₃, rfl, hasked, hq⟩ := ih hx
        exact ⟨p :: before, q, after, _, w₃, rfl, .refused hj hasked, hq⟩
    | @settled p ps _ _ _ hj _ => exact ⟨[], p, ps, [], _, rfl, .nobody, hx ▸ congrArg Prod.fst hj⟩
  · rintro ⟨before, p, after, cs, w₁, rfl, hasked, hp⟩
    generalize hx : (Except.ok false : Except Interrupt Bool) = x at hasked
    induction hasked with
    | @nobody w =>
        rcases hj : judge p r (w.entering .enforcement) with ⟨y, w₂⟩
        obtain rfl : y = .ok true := by simpa [hj] using hp
        exact ⟨_, _, .settled hj (by simp)⟩
    | refused hj _ ih =>
        obtain ⟨ds, w₃, h⟩ := ih hp hx
        exact ⟨_, w₃, .refused hj h⟩
    | settled _ hne => exact absurd hx.symm hne

end LifecycleGuard.Evaluator
