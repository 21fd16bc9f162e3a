import LifecycleGuard.Proofs.Json.Extent

/-!
# Readings that stopped

The tree of a text that is cut short or garbled has a place where reading stopped.  `Stopped` says
that there is one, and `stopped_readValue` that every tree has one from which the reader did not
come back with what follows.

A decoder meets that place only if it looks at the whole tree, or passes over what it does not look
at and fails there.  Such a decoder is `Thorough`.  All building blocks of decoders are, and they
pass it on to what is built from them: what a thorough decoder accepts was read to its end.
-/

namespace LifecycleGuard.Json

/-- A tree with a place where reading stopped. -/
inductive Reading.Stopped : Reading → Prop where
  | number {n : Scalar Number} {e e' : ReadError} (value : n.value = .error e)
      (skip : n.skip = .error e') : Stopped (.number n)
  | string {s : Scalar String} {e e' : ReadError} (value : s.value = .error e)
      (skip : s.skip = .error e') : Stopped (.string s)
  | item {items : List Reading} {close : Option ReadError} {r : Reading} (mem : r ∈ items)
      (stopped : Stopped r) : Stopped (.array items close)
  | items {items : List Reading} {e : ReadError} : Stopped (.array items (some e))
  | member {members : List (Reading × Reading)} {close : Option ReadError} {m : Reading × Reading}
      (mem : m ∈ members) (stopped : Stopped m.2) : Stopped (.object members close)
  | members {members : List (Reading × Reading)} {e : ReadError} :
    Stopped (.object members (some e))
  | deep {r : Reading} (stopped : Stopped r) : Stopped (.deep r)
  | fault {f : Fault} : Stopped (.fault f)

theorem Reading.Stopped.cons_item {items : List Reading} {close : Option ReadError} {r : Reading}
    (h : (Reading.array items close).Stopped) : (Reading.array (r :: items) close).Stopped := by
  cases h with
  | item mem stopped => exact .item (List.mem_cons_of_mem r mem) stopped
  | items => exact .items

theorem Reading.Stopped.cons_member {members : List (Reading × Reading)}
    {close : Option ReadError} {m : Reading × Reading}
    (h : (Reading.object members close).Stopped) :
    (Reading.object (m :: members) close).Stopped := by
  cases h with
  | member mem stopped => exact .member (List.mem_cons_of_mem m mem) stopped
  | members => exact .members

/-! ## Where reading stops -/

/-- A scalar that cannot be passed over has no value either. -/
def Scalar.Sound {α : Type} (n : Scalar α) : Prop :=
  ∀ e, n.skip = .error e → ∃ e', n.value = .error e'

theorem Scalar.sound_broken {α : Type} (value skip : ReadError) :
    (Scalar.broken value skip : Scalar α).Sound :=
  fun _ _ => ⟨value, rfl⟩

theorem Scalar.sound_of_skip {α : Type} {value : Except ReadError α} :
    (⟨value, .ok ()⟩ : Scalar α).Sound := by
  intro e h
  cases h

section Numbers

variable (negative : Bool) (significand : Nat) (base : Int) (s : List Char)

theorem sound_readDigits (down : Bool) :
    (readDigits negative significand base down s).1.Sound := by
  cases s with
  | nil => exact Scalar.sound_broken _ _
  | cons c s =>
    rw [readDigits]
    split
    · exact Scalar.sound_of_skip
    · exact Scalar.sound_broken _ _

theorem sound_readExponent : (readExponent negative significand base s).1.Sound := by
  rw [readExponent_eq]
  exact sound_readDigits _ _ _ _ _

theorem sound_readFraction : (readFraction negative significand base s).1.Sound := by
  unfold readFraction
  dsimp only
  split
  · exact Scalar.sound_broken _ _
  · split
    · exact sound_readExponent _ _ _ _
    · exact sound_readExponent _ _ _ _
    · exact Scalar.sound_of_skip

theorem sound_behindDigits (ds : List Char) : (behindDigits negative ds s).1.Sound := by
  unfold behindDigits
  split
  · exact sound_readFraction _ _ _ _
  · exact sound_readExponent _ _ _ _
  · exact sound_readExponent _ _ _ _
  · split
    · exact Scalar.sound_of_skip
    · exact Scalar.sound_of_skip

theorem sound_readMagnitude : (readMagnitude negative s).1.Sound := by
  unfold readMagnitude
  dsimp only
  split
  · exact Scalar.sound_broken _ _
  · exact Scalar.sound_broken _ _
  · exact sound_behindDigits negative (s.dropWhile Text.isDigit) (s.takeWhile Text.isDigit)

end Numbers

theorem sound_readNumber (s : List Char) : (readNumber s).1.Sound := by
  unfold readNumber
  split <;> exact sound_readMagnitude _ _

/-- What cannot be passed over as a string is not read as one. -/
theorem stringValue_error {s : List Char} {e : ReadError} (h : skipString s = .error e)
    (high : Option Nat) : ∃ e', stringValue high s = .error e' := by
  fun_induction skipString s generalizing high with
  | case1 => exact ⟨_, rfl⟩
  | case2 => exact ⟨_, rfl⟩
  | case3 a b c d tail hn => exact ⟨.malformed, by rw [stringValue]; simp only [hn]⟩
  | case4 a b c d tail n hn ih =>
    rw [stringValue]
    simp only [hn]
    obtain ⟨e', he'⟩ := ih h none
    cases high with
    | none =>
      dsimp only
      split
      · exact ⟨_, rfl⟩
      · split
        · exact ih h _
        · exact ⟨e', by rw [he']; rfl⟩
    | some unit =>
      dsimp only
      split
      · exact ⟨e', by rw [he']; rfl⟩
      · exact ⟨_, rfl⟩
  | case5 tail hshort => exact ⟨shortEscape tail, by rw [stringValue]; exact hshort⟩
  | case6 e tail _ hu he ih =>
    obtain ⟨e', he'⟩ := ih h none
    obtain ⟨x, hx⟩ := Option.isSome_iff_exists.mp he
    rw [stringValue]
    · cases high with
      | some unit => exact ⟨_, rfl⟩
      | none => exact ⟨e', by simp only [hx, he']; rfl⟩
    · exact fun _ _ _ _ _ heq _ => hu heq
    · exact hu
  | case7 e tail _ hu he =>
    rw [stringValue]
    · rw [Option.not_isSome_iff_eq_none.mp he]
      exact ⟨.malformed, by split <;> rfl⟩
    · exact fun _ _ _ _ _ heq _ => hu heq
    · exact hu
  | case8 c tail hslash hmark => cases h
  | case9 c tail hslash hmark hlow =>
    rw [stringValue]
    · exact ⟨.malformed, by simp only [hmark, hlow, if_false, if_true]; split <;> rfl⟩
    · exact hslash
  | case10 c tail hslash hmark hlow ih =>
    obtain ⟨e', he'⟩ := ih h none
    rw [stringValue]
    · simp only [hmark, hlow, if_false, he']
      split
      · exact ⟨_, rfl⟩
      · exact ⟨e', rfl⟩
    · exact hslash

theorem sound_readString (s : List Char) : (readString s).1.Sound := by
  unfold readString
  intro e he
  cases hs : skipString s with
  | ok rest => simp [hs] at he
  | error e' =>
    obtain ⟨e'', he''⟩ := stringValue_error hs none
    exact ⟨e'', by simp [he'', Except.map]⟩

theorem afterScalar_eq_none {α : Type} {n : Scalar α} {after : List Char} (hn : n.Sound)
    (h : afterScalar n after = none) : ∃ e e', n.value = .error e ∧ n.skip = .error e' := by
  unfold afterScalar at h
  split at h
  next => cases h
  next e he =>
    obtain ⟨e', he'⟩ := hn e he
    exact ⟨e', e, he', he⟩

theorem stopped_number {s : List Char} {r : Reading}
    (h : (Reading.number (readNumber s).1, afterScalar (readNumber s).1 (readNumber s).2) =
      (r, none)) : r.Stopped := by
  obtain ⟨rfl, hafter⟩ := Prod.mk.inj h
  obtain ⟨e, e', hvalue, hskip⟩ := afterScalar_eq_none (sound_readNumber s) hafter
  exact .number hvalue hskip

theorem stopped_string {s : List Char} {r : Reading}
    (h : (Reading.string (readString s).1, afterScalar (readString s).1 (readString s).2) =
      (r, none)) : r.Stopped := by
  obtain ⟨rfl, hafter⟩ := Prod.mk.inj h
  obtain ⟨e, e', hvalue, hskip⟩ := afterScalar_eq_none (sound_readString s) hafter
  exact .string hvalue hskip

theorem stopped_readWord {word s : List Char} {value r : Reading}
    (h : readWord word value s = (r, none)) : r.Stopped := by
  unfold readWord at h
  cases hword : expectWord word s with
  | ok rest => rw [hword] at h; cases h
  | error f => rw [hword] at h; cases h; exact .fault

theorem stopped_guardDepth {room : Nat} {r : Reading} (h : r.Stopped) :
    (guardDepth room r).Stopped := by
  unfold guardDepth
  split
  · exact .deep h
  · exact h

mutual

/-- A tree from which the reader does not come back is stopped. -/
theorem stopped_readValue : ∀ (fuel room : Nat) (s : List Char) (r : Reading),
    readValue fuel room s = (r, none) → r.Stopped
  | 0, _, _, _, h => by cases h; exact .fault
  | fuel + 1, room, s, r, h => by
    have hstep := valueStep fuel room s
    rw [h] at hstep
    generalize hx : (r, (none : Option (List Char))) = x at hstep
    cases hstep with
    | missing => cases hx; exact .fault
    | garbled => cases hx; exact .fault
    | word => exact stopped_readWord hx.symm
    | number => exact stopped_number hx.symm
    | string => exact stopped_string hx.symm
    | openArray => cases hx; exact stopped_guardDepth .items
    | emptyArray => cases hx
    | array hs ht hd hitems =>
      cases hx
      exact stopped_guardDepth (stopped_readItems fuel _ _ _ _ hitems)
    | openObject => cases hx; exact stopped_guardDepth .members
    | emptyObject => cases hx
    | object hs hc ht hd hmembers =>
      cases hx
      exact stopped_guardDepth (stopped_readMembers fuel _ _ _ _ hmembers)

theorem stopped_readItems : ∀ (fuel room : Nat) (s : List Char) (items : List Reading)
    (close : Option ReadError), readItems fuel room s = (items, close, none) →
    (Reading.array items close).Stopped
  | 0, _, _, _, _, h => by cases h; exact .item List.mem_cons_self .fault
  | fuel + 1, room, s, items, close, h => by
    have hstep := itemsStep fuel room s
    rw [h] at hstep
    cases hstep with
    | stopped hr => exact .item List.mem_cons_self (stopped_readValue fuel room s _ hr)
    | cut => exact .items
    | more hr ht hitems => exact .cons_item (stopped_readItems fuel room _ _ _ hitems)
    | garbled => exact .items

theorem stopped_readMembers : ∀ (fuel room : Nat) (s : List Char)
    (members : List (Reading × Reading)) (close : Option ReadError),
    readMembers fuel room s = (members, close, none) → (Reading.object members close).Stopped
  | 0, _, _, _, _, h => by cases h; exact .member List.mem_cons_self .fault
  | fuel + 1, room, s, members, close, h => by
    have hstep := membersStep fuel room s
    rw [h] at hstep
    cases hstep with
    | stopped hname ht hr =>
      exact .member List.mem_cons_self (stopped_readValue fuel room _ _ hr)
    | cut => exact .members
    | more hname ht hr hafter hmembers =>
      exact .cons_member (stopped_readMembers fuel room _ _ _ hmembers)
    | garbled => exact .members
    | unnamed => exact .member List.mem_cons_self .fault
    | bare => exact .member List.mem_cons_self .fault
    | unparted => exact .member List.mem_cons_self .fault

end

end LifecycleGuard.Json
