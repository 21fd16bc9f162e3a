import LifecycleGuard.Audit.Store

/-!
# Paging through a store

A query goes through the entries of a store, keeps those that meet every criterion, and cuts a page
out of what it kept.  Here is what a host can rely on that asks for one page after the other.

**Selecting.**  `AuditFilter.Meets` says what the criteria ask for, with instants compared by their
components from the year down, ends included.  `selects_iff` says that this is what is tested.

**Exactness.**  Pages of one size that follow each other are consecutive pieces of what is selected
(`flatMap_pages`), so together they are all of it, in the order of the store.

**Stability.**  Entries only ever go behind the others (`entries_saveAll`), and what is selected of
a longer list goes on where that of the shorter list ended.  Hence a page that was full stays as it
is, and an answer without a limit only grows at its end.  This would fail if the page were cut out
before the criteria are tested: entries that nobody asked for would move the pages.
-/

namespace LifecycleGuard

/-! ## What the criteria ask for -/

namespace Instant

/-- Whether an instant is before another one: the first of their components from the year down that
differ are in that order. -/
def Precedes (s t : Instant) : Prop := List.Lex (· < ·) s.components t.components

theorem before_iff {as bs : List Int} (h : as.length = bs.length) :
    before as bs = true ↔ List.Lex (· < ·) as bs := by
  induction as generalizing bs with
  | nil =>
    obtain rfl := List.length_eq_zero_iff.mp h.symm
    simp [before]
  | cons a as ih =>
    cases bs with
    | nil => cases h
    | cons b bs => simp [before, List.cons_lex_cons_iff, ih (Nat.succ.inj h)]

/-- An instant is not later than another one if the other one is not before it. -/
theorem le_iff (s t : Instant) : s.le t = true ↔ ¬ t.Precedes s := by
  have hbefore : before t.components s.components = true ↔ t.Precedes s := before_iff rfl
  rw [le, Bool.not_eq_true', ← Bool.not_eq_true, hbefore]

end Instant

namespace AuditFilter

variable (f : AuditFilter)

/-- Every criterion that is set is met; the ends of the time are included. -/
structure Meets (e : AuditEntry) : Prop where
  subjectType : ∀ t ∈ f.subjectType, t = e.subjectType
  subjectId : ∀ i ∈ f.subjectId, i = e.subjectId
  actorType : ∀ t ∈ f.actorType, t = e.actorType
  actorId : ∀ i ∈ f.actorId, i = e.actorId
  action : ∀ a ∈ f.action, a = e.action
  success : ∀ b ∈ f.success, b = e.success
  start : ∀ t ∈ f.start, ¬ e.createdAt.Precedes t
  stop : ∀ t ∈ f.stop, ¬ t.Precedes e.createdAt

theorem met_iff {α : Type} {criterion : Option α} {holds : α → Bool} :
    met criterion holds = true ↔ ∀ x ∈ criterion, holds x = true := by
  cases criterion <;> simp [met]

theorem selects_iff (e : AuditEntry) : f.selects e = true ↔ f.Meets e := by
  simp only [selects, Bool.and_eq_true, met_iff, decide_eq_true_eq, Instant.le_iff]
  constructor
  · rintro ⟨⟨⟨⟨⟨⟨⟨hsubject, hid⟩, hactor⟩, hactorId⟩, haction⟩, hsuccess⟩, hstart⟩, hstop⟩
    exact ⟨hsubject, hid, hactor, hactorId, haction, hsuccess, hstart, hstop⟩
  · rintro ⟨hsubject, hid, hactor, hactorId, haction, hsuccess, hstart, hstop⟩
    exact ⟨⟨⟨⟨⟨⟨⟨hsubject, hid⟩, hactor⟩, hactorId⟩, haction⟩, hsuccess⟩, hstart⟩, hstop⟩

instance (e : AuditEntry) : Decidable (f.Meets e) := decidable_of_iff _ (f.selects_iff e)

/-- The entries that meet every criterion, in their order. -/
def selected (es : List AuditEntry) : List AuditEntry := es.filter fun e => f.Meets e

theorem filter_selects (es : List AuditEntry) : es.filter f.selects = f.selected es := by
  refine List.filter_congr fun e _ => ?_
  rw [Bool.eq_iff_iff, f.selects_iff, decide_eq_true_iff]

theorem selected_append (es more : List AuditEntry) :
    f.selected (es ++ more) = f.selected es ++ f.selected more :=
  List.filter_append ..

/-! ## Pages -/

/-- The same criteria, and no page. -/
def unpaged : AuditFilter := { f with limit := none, offset := none }

/-- The same criteria, and the page in some place among pages of some size. -/
def pageAt (size place : Nat) : AuditFilter :=
  { f with limit := some size, offset := some (place * size) }

theorem apply_unpaged (es : List AuditEntry) : f.unpaged.apply es = f.selected es :=
  f.filter_selects es

theorem apply_pageAt (size place : Nat) (es : List AuditEntry) :
    (f.pageAt size place).apply es = ((f.selected es).drop (place * size)).take size :=
  congrArg (fun l => (List.drop (place * size) l).take size) (f.filter_selects es)

/-- The first pages are the first entries that are selected. -/
theorem flatMap_pages (size count : Nat) (es : List AuditEntry) :
    (List.range count).flatMap (fun place => (f.pageAt size place).apply es) =
      (f.selected es).take (count * size) := by
  induction count with
  | zero => simp
  | succ count ih =>
    rw [List.range_succ, List.flatMap_append, List.flatMap_singleton, ih, apply_pageAt,
      ← List.take_add, Nat.succ_mul]

/-! ## Entries that come later -/

variable {f}

/-- A page that is full stays as it is. -/
theorem apply_append_of_full {size : Nat} (hlimit : f.limit = some size)
    {es : List AuditEntry} (hfull : (f.apply es).length = size) (more : List AuditEntry) :
    f.apply (es ++ more) = f.apply es := by
  have hpage : ∀ l, f.apply l = ((f.selected l).drop (f.offset.getD 0)).take size := by
    intro l
    rw [← f.filter_selects, apply, page, hlimit]
  rw [hpage, List.length_take] at hfull
  rw [hpage, hpage, selected_append, List.drop_append, List.take_append_of_le_length (by omega)]

/-- An answer without a limit grows at its end. -/
theorem apply_prefix (hlimit : f.limit = none) (es more : List AuditEntry) :
    f.apply es <+: f.apply (es ++ more) := by
  have hpage : ∀ l, f.apply l = (f.selected l).drop (f.offset.getD 0) := by
    intro l
    rw [← f.filter_selects, apply, page, hlimit]
  rw [hpage, hpage, selected_append, List.drop_append]
  exact List.prefix_append ..

end AuditFilter

/-! ## Stores -/

namespace Store

/-- The media after some entries were saved, each to a store. -/
def saveAll (saves : List (Store × AuditEntry)) (m : Media) : Media :=
  saves.foldl (fun m x => (x.1.save x.2 m).2) m

/-- The entries among some saves that go to a store. -/
def savedTo (s : Store) (saves : List (Store × AuditEntry)) : List AuditEntry :=
  (saves.filter fun x => x.1 = s).map Prod.snd

/-- Saving to a store adds to the entries of that store only. -/
theorem entries_save (number : Nat) (x : Store × AuditEntry) (m : Media) :
    (x.1.save x.2 m).2.entries number =
      m.entries number ++ savedTo (.memory number) [x] := by
  obtain ⟨s, e⟩ := x
  cases s with
  | memory number' =>
    by_cases h : number' = number
    · subst h
      rw [entries_save_memory]
      simp [savedTo]
    · have hother : ((Store.memory number').save e m).2.entries number = m.entries number := by
        show ((m.memory.insert number' _).get? number).getD [] = _
        rw [SortedMap.get?_insert, if_neg (Ne.symm h)]
        rfl
      simpa [savedTo, h] using hother
  | file path => simp [save, savedTo, Media.entries]
  | console => simp [save, savedTo, Media.entries]
  | null => simp [save, savedTo]
  | limited number' capacity refusal text =>
    rw [save]
    split <;> simp [savedTo, Media.entries]

/-- What grows by the entries that one save adds grows by all that some saves add. -/
theorem grows_saveAll {α : Type} (seen : Media → List α) (shown : AuditEntry → α) {s : Store}
    (hstep : ∀ x m, seen (x.1.save x.2 m).2 = seen m ++ (savedTo s [x]).map shown)
    (saves : List (Store × AuditEntry)) (m : Media) :
    seen (saveAll saves m) = seen m ++ (savedTo s saves).map shown := by
  induction saves generalizing m with
  | nil => simp [saveAll, savedTo]
  | cons x saves ih =>
    have hsplit : savedTo s (x :: saves) = savedTo s [x] ++ savedTo s saves := by
      rw [savedTo, savedTo, savedTo, ← List.map_append, ← List.filter_append]
      rfl
    have hrest := ih (x.1.save x.2 m).2
    rw [hstep, List.append_assoc, ← List.map_append, ← hsplit] at hrest
    exact hrest

/-- A memory store holds what was saved to it behind what it held. -/
theorem entries_saveAll (number : Nat) (saves : List (Store × AuditEntry)) (m : Media) :
    (saveAll saves m).entries number = m.entries number ++ savedTo (.memory number) saves := by
  have hgrows := grows_saveAll (fun m => m.entries number) id
    (fun x m => by rw [entries_save, List.map_id]) saves m
  rwa [List.map_id] at hgrows

theorem query_of_everything {s : Store} {m : Media} {stored : List AuditEntry}
    (h : s.everything m = .ok stored) (f : AuditFilter) : s.query f m = .ok (f.apply stored) := by
  rw [query, h]
  rfl

theorem query_memory (number : Nat) (f : AuditFilter) (m : Media) :
    (Store.memory number).query f m = .ok (f.apply (m.entries number)) := rfl

/-- The pages that a store gives, one after the other. -/
def pages (s : Store) (f : AuditFilter) (size count : Nat) (m : Media) :
    Except AuditError (List (List AuditEntry)) :=
  (List.range count).mapM fun place => s.query (f.pageAt size place) m

/-- The first pages are the first entries of the answer without paging. -/
theorem flatten_pages {s : Store} {m : Media} {stored : List AuditEntry}
    (h : s.everything m = .ok stored) (f : AuditFilter) (size count : Nat) :
    List.flatten <$> s.pages f size count m = .ok ((f.selected stored).take (count * size)) := by
  have hpages : s.pages f size count m =
      (List.range count).mapM fun place => pure ((f.pageAt size place).apply stored) := by
    simp only [pages, query_of_everything h]
    rfl
  rw [hpages, List.mapM_pure, ← f.flatMap_pages, List.flatMap_def]
  rfl

/-- **Paging is exact and stable.**  The answer without paging is what meets every criterion of all
that a store gives back, in its order.  Pages of one size that follow each other are its consecutive
pieces, and enough of them are all of it.  What is saved to a memory store goes behind what it gave
back; whatever is saved there or elsewhere, a page that was full is answered as before, and an
answer without a limit is the front of the later one. -/
theorem paging (f : AuditFilter) {size : Nat} (hsize : 0 < size) :
    (∀ (s : Store) (m : Media) (stored : List AuditEntry), s.everything m = .ok stored →
      s.query f.unpaged m = .ok (stored.filter fun e => f.Meets e) ∧
      (∀ count, List.flatten <$> s.pages f size count m =
        List.take (count * size) <$> s.query f.unpaged m) ∧
      ∀ count, stored.length ≤ count →
        List.flatten <$> s.pages f size count m = s.query f.unpaged m) ∧
    ∀ (number : Nat) (m : Media) (saves : List (Store × AuditEntry)),
      (Store.memory number).everything (saveAll saves m) =
        .ok (m.entries number ++ savedTo (.memory number) saves) ∧
      ∀ answer, (Store.memory number).query f m = .ok answer →
        (f.limit = some answer.length →
          (Store.memory number).query f (saveAll saves m) = .ok answer) ∧
        (f.limit = none →
          ∃ later, (Store.memory number).query f (saveAll saves m) = .ok later ∧
            answer <+: later) := by
  refine ⟨fun s m stored hstored => ?_, fun number m saves => ⟨?_, fun answer hanswer => ?_⟩⟩
  · have hwhole : s.query f.unpaged m = .ok (f.selected stored) := by
      rw [query_of_everything hstored, f.apply_unpaged]
    refine ⟨hwhole, fun count => ?_, fun count hcount => ?_⟩
    · rw [flatten_pages hstored, hwhole]
      rfl
    · have hall : (f.selected stored).length ≤ count * size :=
        calc (f.selected stored).length
          _ ≤ stored.length := List.length_filter_le ..
          _ ≤ count := hcount
          _ ≤ count * size := Nat.le_mul_of_pos_right count hsize
      rw [flatten_pages hstored, hwhole, List.take_of_length_le hall]
  · exact congrArg Except.ok (entries_saveAll number saves m)
  · rw [query_memory] at hanswer
    obtain rfl := Except.ok.inj hanswer
    rw [query_memory, entries_saveAll]
    refine ⟨fun hlimit => ?_, fun hlimit => ⟨_, rfl, AuditFilter.apply_prefix hlimit _ _⟩⟩
    rw [AuditFilter.apply_append_of_full hlimit rfl]

/-- An entry about a note, by an actor of which nothing is known. -/
def noteEntry (id : String) (action : Action) : AuditEntry :=
  { AuditEntry.blank .nil .epoch action "note" with subjectId := id, success := true }

/-- Updates of two notes among other entries, in the first memory store. -/
def noteLog : Media :=
  saveAll [(.memory 0, noteEntry "1" .create), (.memory 0, noteEntry "1" .update),
    (.memory 1, noteEntry "1" .update), (.memory 0, noteEntry "2" .update),
    (.memory 0, noteEntry "1" .find), (.memory 0, noteEntry "1" .update)] .blank

/-- The updates from the beginning of 1970 on. -/
def updates : AuditFilter := { AuditFilter.all with action := some .update, start := some .epoch }

theorem paging_updates :
    0 < 2 ∧ (Store.memory 0).everything noteLog = .ok (noteLog.entries 0) ∧
      (noteLog.entries 0).length ≤ 5 ∧
      List.flatten <$> (Store.memory 0).pages updates 2 5 noteLog =
        .ok [noteEntry "1" .update, noteEntry "2" .update, noteEntry "1" .update] ∧
      (Store.memory 0).query (updates.pageAt 2 0) noteLog =
        .ok [noteEntry "1" .update, noteEntry "2" .update] ∧
      (Store.memory 0).query (updates.pageAt 2 0)
          (saveAll [(.memory 0, noteEntry "3" .update)] noteLog) =
        .ok [noteEntry "1" .update, noteEntry "2" .update] := by
  have hsize : 0 < 2 := by decide
  have hlength : (noteLog.entries 0).length ≤ 5 := by decide +kernel
  have hwhole : (Store.memory 0).query updates.unpaged noteLog =
      .ok [noteEntry "1" .update, noteEntry "2" .update, noteEntry "1" .update] := rfl
  have hfirst : (Store.memory 0).query (updates.pageAt 2 0) noteLog =
      .ok [noteEntry "1" .update, noteEntry "2" .update] := rfl
  refine ⟨hsize, rfl, hlength, ?_, hfirst, ?_⟩
  · rw [((paging updates hsize).1 (.memory 0) noteLog _ rfl).2.2 5 hlength, hwhole]
  · exact (((paging (updates.pageAt 2 0) hsize).2 0 noteLog _).2 _ hfirst).1 rfl

end Store

end LifecycleGuard
