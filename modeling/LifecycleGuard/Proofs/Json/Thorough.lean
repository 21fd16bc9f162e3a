import LifecycleGuard.Audit.Entry
import LifecycleGuard.Json.Source
import LifecycleGuard.Proofs.Collections.Except
import LifecycleGuard.Proofs.Json.Stopped
import Mathlib.Data.List.TakeWhile

/-!
# Decoders that read to the end

A decoder is thorough if it accepts no tree in which reading stopped.  The questions that decoders
ask are thorough, even passing over a value is, because the fault in the text is found there too.
What is built from thorough decoders is thorough, since every item, member and field of a document
is either read or passed over (`Thorough.readRecord`, `Thorough.readMembers`).
-/

namespace LifecycleGuard.Json

variable {α β δ : Type}

/-- A decoder that accepts no tree in which reading stopped. -/
def Thorough (decoder : Reading → Except ReadError α) : Prop :=
  ∀ r x, decoder r = .ok x → ¬ r.Stopped

/-! ## What is asked of a tree -/

theorem thorough_text : Thorough Reading.text := by
  intro r x h hstopped
  cases hstopped with
  | string value skip => simp [Reading.text, value] at h
  | number value skip => simp [Reading.text] at h
  | _ => simp [Reading.text] at h

theorem thorough_flag : Thorough Reading.flag := by
  intro r x h hstopped
  cases hstopped <;> simp [Reading.flag] at h

theorem thorough_integer : Thorough Reading.integer := by
  intro r x h hstopped
  cases hstopped with
  | number value skip =>
    rw [Reading.integer, value] at h
    cases h
  | _ => simp [Reading.integer] at h

theorem skipItems_eq_ok {items : List Reading} (h : skipItems items = .ok ()) :
    ∀ r ∈ items, r.skip = .ok () := by
  induction items with
  | nil => simp
  | cons r items ih =>
    rw [skipItems] at h
    obtain ⟨_, hr, hrest⟩ := bind_eq_ok.mp h
    exact List.forall_mem_cons.mpr ⟨hr, ih hrest⟩

theorem skipMembers_eq_ok {members : List (Reading × Reading)} (h : skipMembers members = .ok ()) :
    ∀ m ∈ members, m.2.skip = .ok () := by
  induction members with
  | nil => simp
  | cons m members ih =>
    obtain ⟨k, r⟩ := m
    have hafter : (r.skip >>= fun _ => skipMembers members) = .ok () := by
      unfold skipMembers at h
      cases k with
      | string s =>
        obtain ⟨_, _, hafter⟩ := bind_eq_ok.mp h
        exact hafter
      | _ => cases h
    obtain ⟨_, hr, hrest⟩ := bind_eq_ok.mp hafter
    exact List.forall_mem_cons.mpr ⟨hr, ih hrest⟩

theorem thorough_skip : Thorough Reading.skip := by
  intro r x h hstopped
  induction hstopped with
  | number value skip => rw [Reading.skip, skip] at h; cases h
  | string value skip => rw [Reading.skip, skip] at h; cases h
  | item mem stopped ih =>
    unfold Reading.skip at h
    obtain ⟨_, hitems, _⟩ := bind_eq_ok.mp h
    exact ih (skipItems_eq_ok hitems _ mem)
  | items =>
    unfold Reading.skip at h
    obtain ⟨_, _, hclose⟩ := bind_eq_ok.mp h
    cases hclose
  | member mem stopped ih =>
    unfold Reading.skip at h
    obtain ⟨_, hmembers, _⟩ := bind_eq_ok.mp h
    exact ih (skipMembers_eq_ok hmembers _ mem)
  | members =>
    unfold Reading.skip at h
    obtain ⟨_, _, hclose⟩ := bind_eq_ok.mp h
    cases hclose
  | deep stopped ih => exact ih h
  | fault => cases h

theorem itemValues_eq_ok {items : List Reading} {xs : List Json} (h : itemValues items = .ok xs) :
    ∀ r ∈ items, ∃ x, r.value = .ok x := by
  induction items generalizing xs with
  | nil => simp
  | cons r items ih =>
    rw [itemValues] at h
    obtain ⟨x, hr, hafter⟩ := bind_eq_ok.mp h
    obtain ⟨xs', hrest, _⟩ := bind_eq_ok.mp hafter
    exact List.forall_mem_cons.mpr ⟨⟨x, hr⟩, ih hrest⟩

theorem memberValues_eq_ok {members : List (Reading × Reading)} {xs : List (String × Json)}
    (h : memberValues members = .ok xs) : ∀ m ∈ members, ∃ x, m.2.value = .ok x := by
  induction members generalizing xs with
  | nil => simp
  | cons m members ih =>
    obtain ⟨k, r⟩ := m
    rw [memberValues] at h
    obtain ⟨_, _, hafter⟩ := bind_eq_ok.mp h
    obtain ⟨x, hr, hafter⟩ := bind_eq_ok.mp hafter
    obtain ⟨xs', hrest, _⟩ := bind_eq_ok.mp hafter
    exact List.forall_mem_cons.mpr ⟨⟨x, hr⟩, ih hrest⟩

theorem thorough_value : Thorough Reading.value := by
  intro r x h hstopped
  induction hstopped generalizing x with
  | number value skip => rw [Reading.value, value] at h; cases h
  | string value skip => rw [Reading.value, value] at h; cases h
  | item mem stopped ih =>
    unfold Reading.value at h
    obtain ⟨xs, hitems, _⟩ := bind_eq_ok.mp h
    obtain ⟨y, hy⟩ := itemValues_eq_ok hitems _ mem
    exact ih y hy
  | items =>
    unfold Reading.value at h
    obtain ⟨_, _, hclose⟩ := bind_eq_ok.mp h
    cases hclose
  | member mem stopped ih =>
    unfold Reading.value at h
    obtain ⟨xs, hmembers, _⟩ := bind_eq_ok.mp h
    obtain ⟨y, hy⟩ := memberValues_eq_ok hmembers _ mem
    exact ih y hy
  | members =>
    unfold Reading.value at h
    obtain ⟨_, _, hclose⟩ := bind_eq_ok.mp h
    cases hclose
  | deep stopped ih => cases h
  | fault => cases h

/-! ## What is built from thorough decoders -/

theorem Thorough.bind {decoder : Reading → Except ReadError α} (h : Thorough decoder)
    (f : α → Except ReadError β) : Thorough fun r => decoder r >>= f := by
  intro r x hx
  obtain ⟨y, hy, -⟩ := bind_eq_ok.mp hx
  exact h r y hy

theorem Thorough.fill {decoder : Reading → Except ReadError α} (h : Thorough decoder)
    (slot : Option α) : Thorough (Decoding.Slot.fill decoder slot) := by
  intro r x hx
  unfold Decoding.Slot.fill at hx
  split at hx
  next => cases hx
  next =>
    cases hr : decoder r with
    | error e => rw [hr] at hx; cases hx
    | ok y => exact h r y hr

theorem Thorough.readOptional {decoder : Reading → Except ReadError α} (h : Thorough decoder) :
    Thorough (Decoding.readOptional decoder) := by
  intro r x hx hstopped
  have hsome : (Source.optional r : Except ReadError (Option Reading)) = .ok (some r) := by
    cases hstopped <;> rfl
  rw [Decoding.readOptional, hsome] at hx
  have hx : some <$> decoder r = .ok x := hx
  cases hr : decoder r with
  | error e => rw [hr] at hx; cases hx
  | ok y => exact h r y hr hstopped

theorem finish_eq_ok {close : Option ReadError}
    (h : (Decoding.finish close : Except ReadError Unit) = .ok ()) : close = none := by
  cases close with
  | none => rfl
  | some e => cases h

theorem Thorough.readParsed {parse : String → Option α} :
    Thorough (AuditEntry.readParsed parse) :=
  thorough_text.bind _

/-- Behind the name of an alternative there is null and nothing more. -/
theorem afterChoice_eq_ok {value : Reading} {more : List (Reading × Reading)}
    {close : Option ReadError} (h : Reading.afterChoice value more close = .ok ()) :
    value = .null ∧ more = [] ∧ close = none := by
  unfold Reading.afterChoice at h
  split at h
  next =>
    cases more with
    | cons m more => cases h
    | nil =>
      cases close with
      | none => exact ⟨rfl, rfl, rfl⟩
      | some e => cases h
  next => cases h

theorem choice_of_stopped {r : Reading} {name : String} (hstopped : r.Stopped) :
    r.choice ≠ .ok (name, .ok ()) := by
  intro h
  cases hstopped with
  | string value skip =>
    rw [Reading.choice, value] at h
    cases h
  | @member members close m mem stopped =>
    cases members with
    | nil => cases mem
    | cons m' more =>
      obtain ⟨key, value⟩ := m'
      obtain ⟨_, _, hpair⟩ := bind_eq_ok.mp h
      have hafter : Reading.afterChoice value more close = .ok () :=
        (Prod.mk.inj (Except.ok.inj hpair)).2
      obtain ⟨rfl, rfl, -⟩ := afterChoice_eq_ok hafter
      rw [List.mem_singleton.mp mem] at stopped
      cases stopped
  | @members members e =>
    cases members with
    | nil => cases h
    | cons m more =>
      obtain ⟨_, _, hpair⟩ := bind_eq_ok.mp h
      have hafter : Reading.afterChoice m.2 more (some e) = .ok () :=
        (Prod.mk.inj (Except.ok.inj hpair)).2
      cases (afterChoice_eq_ok hafter).2.2
  | @fault f => cases f <;> cases h
  | _ => cases h

theorem Thorough.readChoice {known : String → Option α} :
    Thorough (Decoding.readChoice known) := by
  intro r x hx hstopped
  obtain ⟨⟨name, rest⟩, hchoice, hafter⟩ := bind_eq_ok.mp hx
  dsimp only at hafter
  cases hknown : known name with
  | none => rw [hknown] at hafter; cases hafter
  | some y =>
    rw [hknown] at hafter
    obtain ⟨_, hrest, _⟩ := bind_eq_ok.mp hafter
    rw [hrest] at hchoice
    exact choice_of_stopped hstopped hchoice

/-- A map is read to its end if its values are. -/
theorem Thorough.readMembers {decoder : Reading → Except ReadError α} (h : Thorough decoder) :
    Thorough (Decoding.readMembers decoder) := by
  intro r x hx hstopped
  obtain ⟨l, hmembers, hafter⟩ := bind_eq_ok.mp hx
  obtain ⟨xs, hparts, hafter⟩ := bind_eq_ok.mp hafter
  obtain ⟨_, hclose, _⟩ := bind_eq_ok.mp hafter
  have hclose := finish_eq_ok hclose
  have hmembers : r.members = .ok l := hmembers
  cases hstopped with
  | @member members close m mem stopped =>
    cases hmembers
    obtain ⟨_, hm⟩ := mapM_eq_ok hparts m mem
    obtain ⟨_, _, hm⟩ := bind_eq_ok.mp hm
    obtain ⟨y, hy, _⟩ := bind_eq_ok.mp hm
    exact h m.2 y hy stopped
  | members => cases hmembers; cases hclose
  | @deep inner stopped => cases inner <;> cases hmembers
  | _ => cases hmembers

theorem fillPositions_eq_ok {step : δ → String → Reading → Except ReadError δ}
    {close : Option ReadError} {names : List String} {values : List Reading} {d d' : δ}
    (h : Decoding.fillPositions step close names values d = .ok d') :
    close = none ∧ ∀ r ∈ values, ∃ b name c, step b name r = .ok c := by
  induction names generalizing values d with
  | nil =>
    cases values with
    | nil =>
      obtain ⟨_, hclose, _⟩ := bind_eq_ok.mp h
      exact ⟨finish_eq_ok hclose, by simp⟩
    | cons r values => cases h
  | cons name names ih =>
    cases values with
    | nil =>
      obtain ⟨_, hclose, _⟩ := bind_eq_ok.mp h
      exact ⟨finish_eq_ok hclose, by simp⟩
    | cons r values =>
      obtain ⟨d'', hr, hrest⟩ := bind_eq_ok.mp h
      obtain ⟨hclose, hvalues⟩ := ih hrest
      exact ⟨hclose, List.forall_mem_cons.mpr ⟨⟨d, name, d'', hr⟩, hvalues⟩⟩

/-- A record is read to its end if each of its fields is, whatever its name. -/
theorem Thorough.readRecord {names : List String} {step : δ → String → Reading → Except ReadError δ}
    {start : δ} (h : ∀ d name, Thorough (step d name)) :
    Thorough (Decoding.readRecord names step start) := by
  intro r x hx hstopped
  obtain ⟨fields, hfields, hafter⟩ := bind_eq_ok.mp hx
  have hfields : r.fields = .ok fields := hfields
  cases hstopped with
  | @member members close m mem stopped =>
    cases hfields
    obtain ⟨d, hparts, _⟩ := bind_eq_ok.mp hafter
    obtain ⟨b, c, hm⟩ := foldlM_eq_ok hparts m mem
    obtain ⟨name, _, hm⟩ := bind_eq_ok.mp hm
    exact h b name m.2 c hm stopped
  | members =>
    cases hfields
    obtain ⟨d, _, hclose⟩ := bind_eq_ok.mp hafter
    obtain ⟨_, hclose, _⟩ := bind_eq_ok.mp hclose
    cases finish_eq_ok hclose
  | @item items close r' mem stopped =>
    cases hfields
    obtain ⟨-, hvalues⟩ := fillPositions_eq_ok hafter
    obtain ⟨b, name, c, hr⟩ := hvalues r' mem
    exact h b name r' c hr stopped
  | items =>
    cases hfields
    cases (fillPositions_eq_ok hafter).1
  | _ => cases hfields

/-! ## What stands around a document -/

theorem readValue_skipSpace {s t : List Char} (h : skipSpace s = skipSpace t) (fuel room : Nat) :
    readValue fuel room s = readValue fuel room t := by
  cases fuel with
  | zero => rfl
  | succ fuel => rw [readValue, readValue, h]

theorem skipSpace_space_append {front : List Char} (h : ∀ c ∈ front, isSpace c = true)
    (s : List Char) : skipSpace (front ++ s) = skipSpace s := by
  unfold skipSpace
  rw [List.dropWhile_append, List.dropWhile_eq_nil_iff.mpr h]
  rfl

theorem decode_eq_ok {decoder : Reading → Except ReadError α} {s : List Char} {x : α}
    (h : decode decoder (String.ofList s) = .ok x) :
    (Reading.ofChars s).2 = true ∧ decoder (Reading.ofChars s).1 = .ok x := by
  rw [decode, String.toList_ofList] at h
  generalize Reading.ofChars s = read at h ⊢
  obtain ⟨r, ended⟩ := read
  obtain ⟨y, hy, hafter⟩ := bind_eq_ok.mp h
  cases ended with
  | true => cases hafter; exact ⟨rfl, hy⟩
  | false => cases hafter

/-- A thorough decoder has read the value of a text to its end, and only space is left. -/
theorem Thorough.readValue_eq {decoder : Reading → Except ReadError α} (hd : Thorough decoder)
    {s : List Char} {x : α} (h : decode decoder (String.ofList s) = .ok x) :
    ∃ r rest, readValue (2 * s.length + 2) nestingLimit s = (r, some rest) ∧
      skipSpace rest = [] ∧ decoder r = .ok x := by
  obtain ⟨hended, hx⟩ := decode_eq_ok h
  unfold Reading.ofChars at hended hx
  rcases hread : readValue (2 * s.length + 2) nestingLimit s with ⟨r, _ | rest⟩
  · rw [hread] at hx
    exact absurd (stopped_readValue _ _ _ _ hread) (hd r x hx)
  · rw [hread] at hended hx
    exact ⟨r, rest, rfl, List.isEmpty_iff.mp hended, hx⟩

/-- **Around a document that is accepted, space in front changes nothing, and behind it there may
be nothing but space.** -/
theorem Thorough.decode_around {decoder : Reading → Except ReadError α} (hd : Thorough decoder)
    {front s u : List Char} {x : α} (h : decode decoder (String.ofList s) = .ok x)
    (hfront : ∀ c ∈ front, isSpace c = true) (hu : EndsNumber u) :
    decode decoder (String.ofList (front ++ s ++ u)) =
      if skipSpace u = [] then .ok x else .error .malformed := by
  obtain ⟨r, rest, hread, hrest, hx⟩ := hd.readValue_eq h
  have hskip : skipSpace (front ++ s ++ u) = skipSpace (s ++ u) := by
    rw [List.append_assoc, skipSpace_space_append hfront]
  have hfuel : 2 * (front ++ s ++ u).length + 2 =
      2 * s.length + 2 + (2 * front.length + 2 * u.length) := by
    simp only [List.length_append]
    omega
  have hwhole : readValue (2 * (front ++ s ++ u).length + 2) nestingLimit (front ++ s ++ u) =
      (r, some (rest ++ u)) := by
    rw [readValue_skipSpace hskip, hfuel]
    exact readValue_append hu _ _ _ _ _ _ hread
  have hbehind : skipSpace (rest ++ u) = skipSpace u :=
    skipSpace_space_append (List.dropWhile_eq_nil_iff.mp hrest) u
  simp only [decode, String.toList_ofList, Reading.ofChars, hwhole, hbehind, hx]
  cases skipSpace u <;> rfl

/-- A blank that is not space begins no value. -/
theorem not_begins_of_blank {c : Char} (hc : Text.isBlank c = true) : ¬ Begins c := by
  have hne : ∀ d : Char, Text.isBlank d = false → c ≠ d := by
    rintro d hd rfl
    rw [hd] at hc
    cases hc
  have hnumber : ∀ n, Text.isBlank (Char.ofNat n) = false → c.toNat ≠ n := by
    rintro n hn rfl
    rw [Char.ofNat_toNat] at hn
    exact hne c hn rfl
  rintro ((h | h | h) | (h | h) | h | h | h)
  · exact hne 'n' rfl h
  · exact hne 't' rfl h
  · exact hne 'f' rfl h
  · exact hne '-' rfl h
  · rw [Text.isBlank_of_isDigit h] at hc
    cases hc
  · exact hnumber 0x22 rfl h
  · exact hne '[' rfl h
  · exact hnumber 0x7B rfl h

/-- What begins with another blank is no document. -/
theorem decode_of_blank {decoder : Reading → Except ReadError α} {s t : List Char} {c : Char}
    (h : skipSpace s = c :: t) (hc : Text.isBlank c = true) :
    decode decoder (String.ofList s) = decoder (.fault .garbled) := by
  have hread : readValue (2 * s.length + 2) nestingLimit s = (.fault .garbled, none) :=
    (ValueStep.garbled h (not_begins_of_blank hc)).eq
  rw [decode, String.toList_ofList, Reading.ofChars, hread]
  exact bind_pure _

/-! ## Entries -/

theorem thorough_change : Thorough (AttributeChange.read : Reading → Except ReadError _) := by
  refine (Thorough.readRecord fun d name => ?_).bind _
  unfold AttributeChange.step
  split
  · exact (Thorough.fill thorough_value _).bind _
  · exact (Thorough.fill thorough_value _).bind _
  · exact thorough_skip.bind _

theorem thorough_changes : Thorough (ChangeSet.read : Reading → Except ReadError _) := by
  intro r x hx
  cases hr : Decoding.readMembers (AttributeChange.read : Reading → Except ReadError _) r with
  | error e => rw [ChangeSet.read, hr] at hx; cases hx
  | ok entries => exact thorough_change.readMembers r entries hr

/-- What is read as an entry was read to its end. -/
theorem thorough_entry : Thorough (AuditEntry.read : Reading → Except ReadError _) := by
  refine (Thorough.readRecord fun d name => ?_).bind _
  unfold AuditEntry.Draft.step
  split
  · exact (Thorough.readParsed.fill _).bind _
  · exact (thorough_text.fill _).bind _
  · exact (thorough_text.fill _).bind _
  · exact (thorough_integer.readOptional.fill _).bind _
  · exact (thorough_text.fill _).bind _
  · exact (thorough_text.fill _).bind _
  · exact (Thorough.readChoice.fill _).bind _
  · exact (thorough_flag.fill _).bind _
  · exact (thorough_text.readOptional.fill _).bind _
  · exact (thorough_changes.readOptional.fill _).bind _
  · exact (Thorough.readParsed.fill _).bind _
  · exact thorough_skip.bind _

end LifecycleGuard.Json
