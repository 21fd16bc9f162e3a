import LifecycleGuard.Proofs.Json.Scalar

/-!
# One step of the reader

The reader looks at one character to see what kind of value begins there, and at one more to see
whether a list goes on.  `ValueStep`, `ItemsStep` and `MembersStep` list what it can find and what
it makes of it, and each comes with two facts: every step is one of these (`valueStep`), and each of
these is the step that is taken (`ValueStep.eq`).  What is proved about the reader is proved by
cases on them, and nothing else opens its definition.
-/

namespace LifecycleGuard.Json

open Text (isDigit)

/-- The words that stand for values, by their first letter. -/
inductive Word : Char → List Char → Reading → Prop where
  | null : Word 'n' ['u', 'l', 'l'] .null
  | yes : Word 't' ['r', 'u', 'e'] (.bool true)
  | no : Word 'f' ['a', 'l', 's', 'e'] (.bool false)

/-- Whether a value can begin with a character. -/
def Begins (c : Char) : Prop :=
  (c = 'n' ∨ c = 't' ∨ c = 'f') ∨ (c = '-' ∨ isDigit c = true) ∨ c.toNat = 0x22 ∨ c = '[' ∨
    c.toNat = 0x7B

variable (fuel room : Nat)

/-- What is read as a value. -/
inductive ValueStep (s : List Char) : Reading × Option (List Char) → Prop where
  | missing (hs : skipSpace s = []) : ValueStep s (.fault .missing, none)
  | garbled {c : Char} {t : List Char} (hs : skipSpace s = c :: t) (hc : ¬ Begins c) :
    ValueStep s (.fault .garbled, none)
  | word {c : Char} {t word : List Char} {value : Reading} (hs : skipSpace s = c :: t)
    (hc : Word c word value) : ValueStep s (readWord word value t)
  | number {c : Char} {t : List Char} (hs : skipSpace s = c :: t)
    (hc : c = '-' ∨ isDigit c = true) :
    ValueStep s (.number (readNumber (c :: t)).1,
      afterScalar (readNumber (c :: t)).1 (readNumber (c :: t)).2)
  | string {c : Char} {t : List Char} (hs : skipSpace s = c :: t) (hc : c.toNat = 0x22) :
    ValueStep s (.string (readString t).1, afterScalar (readString t).1 (readString t).2)
  | openArray {t : List Char} (hs : skipSpace s = '[' :: t) (ht : skipSpace t = []) :
    ValueStep s (guardDepth room (.array [] (some .truncated)), none)
  | emptyArray {t rest : List Char} (hs : skipSpace s = '[' :: t)
    (ht : skipSpace t = ']' :: rest) : ValueStep s (guardDepth room (.array [] none), some rest)
  | array {d : Char} {t t' : List Char} {items : List Reading} {close : Option ReadError}
    {rest : Option (List Char)} (hs : skipSpace s = '[' :: t) (ht : skipSpace t = d :: t')
    (hd : d ≠ ']') (hitems : readItems fuel (room - 1) t = (items, close, rest)) :
    ValueStep s (guardDepth room (.array items close), rest)
  | openObject {c : Char} {t : List Char} (hs : skipSpace s = c :: t) (hc : c.toNat = 0x7B)
    (ht : skipSpace t = []) :
    ValueStep s (guardDepth room (.object [] (some .truncated)), none)
  | emptyObject {c d : Char} {t rest : List Char} (hs : skipSpace s = c :: t)
    (hc : c.toNat = 0x7B) (ht : skipSpace t = d :: rest) (hd : d.toNat = 0x7D) :
    ValueStep s (guardDepth room (.object [] none), some rest)
  | object {c d : Char} {t t' : List Char} {members : List (Reading × Reading)}
    {close : Option ReadError} {rest : Option (List Char)} (hs : skipSpace s = c :: t)
    (hc : c.toNat = 0x7B) (ht : skipSpace t = d :: t') (hd : d.toNat ≠ 0x7D)
    (hmembers : readMembers fuel (room - 1) t = (members, close, rest)) :
    ValueStep s (guardDepth room (.object members close), rest)

/-- What is read as items. -/
inductive ItemsStep (s : List Char) :
    List Reading × Option ReadError × Option (List Char) → Prop where
  | stopped {r : Reading} (hr : readValue fuel room s = (r, none)) : ItemsStep s ([r], none, none)
  | cut {r : Reading} {t : List Char} (hr : readValue fuel room s = (r, some t))
    (ht : skipSpace t = []) : ItemsStep s ([r], some .truncated, none)
  | last {r : Reading} {t rest : List Char} (hr : readValue fuel room s = (r, some t))
    (ht : skipSpace t = ']' :: rest) : ItemsStep s ([r], none, some rest)
  | more {r : Reading} {t t' : List Char} {items : List Reading} {close : Option ReadError}
    {rest : Option (List Char)} (hr : readValue fuel room s = (r, some t))
    (ht : skipSpace t = ',' :: t') (hitems : readItems fuel room t' = (items, close, rest)) :
    ItemsStep s (r :: items, close, rest)
  | garbled {r : Reading} {d : Char} {t t' : List Char}
    (hr : readValue fuel room s = (r, some t)) (ht : skipSpace t = d :: t')
    (hd : d ≠ ']' ∧ d ≠ ',') : ItemsStep s ([r], some .malformed, none)

/-- What is read as members. -/
inductive MembersStep (s : List Char) :
    List (Reading × Reading) × Option ReadError × Option (List Char) → Prop where
  | unnamed {name : Reading} {after : Option (List Char)} (hname : readName s = (name, after))
    (hne : ∀ k t, (name, after) ≠ (.string k, some t)) :
    MembersStep s ([(name, .fault .garbled)], none, none)
  | bare {k : Scalar String} {t : List Char} (hname : readName s = (.string k, some t))
    (ht : skipSpace t = []) : MembersStep s ([(.string k, .fault .missing)], none, none)
  | unparted {k : Scalar String} {d : Char} {t t' : List Char}
    (hname : readName s = (.string k, some t)) (ht : skipSpace t = d :: t') (hd : d ≠ ':') :
    MembersStep s ([(.string k, .fault .garbled)], none, none)
  | stopped {k : Scalar String} {r : Reading} {t t' : List Char}
    (hname : readName s = (.string k, some t)) (ht : skipSpace t = ':' :: t')
    (hr : readValue fuel room t' = (r, none)) : MembersStep s ([(.string k, r)], none, none)
  | cut {k : Scalar String} {r : Reading} {t t' after : List Char}
    (hname : readName s = (.string k, some t)) (ht : skipSpace t = ':' :: t')
    (hr : readValue fuel room t' = (r, some after)) (hafter : skipSpace after = []) :
    MembersStep s ([(.string k, r)], some .truncated, none)
  | more {k : Scalar String} {r : Reading} {t t' after more : List Char}
    {members : List (Reading × Reading)} {close : Option ReadError} {rest : Option (List Char)}
    (hname : readName s = (.string k, some t)) (ht : skipSpace t = ':' :: t')
    (hr : readValue fuel room t' = (r, some after)) (hafter : skipSpace after = ',' :: more)
    (hmembers : readMembers fuel room more = (members, close, rest)) :
    MembersStep s ((.string k, r) :: members, close, rest)
  | last {k : Scalar String} {r : Reading} {d : Char} {t t' after rest : List Char}
    (hname : readName s = (.string k, some t)) (ht : skipSpace t = ':' :: t')
    (hr : readValue fuel room t' = (r, some after)) (hafter : skipSpace after = d :: rest)
    (hd : d.toNat = 0x7D) : MembersStep s ([(.string k, r)], none, some rest)
  | garbled {k : Scalar String} {r : Reading} {d : Char} {t t' after more : List Char}
    (hname : readName s = (.string k, some t)) (ht : skipSpace t = ':' :: t')
    (hr : readValue fuel room t' = (r, some after)) (hafter : skipSpace after = d :: more)
    (hd : d ≠ ',' ∧ d.toNat ≠ 0x7D) : MembersStep s ([(.string k, r)], some .malformed, none)

/-! ## Every step is one of these -/

theorem valueStep (s : List Char) : ValueStep fuel room s (readValue (fuel + 1) room s) := by
  rw [readValue]
  cases hs : skipSpace s with
  | nil => exact .missing hs
  | cons c t =>
  dsimp only
  split
  next hc => exact .word hs (hc ▸ .null)
  next hn =>
  split
  next hc => exact .word hs (hc ▸ .yes)
  next ht =>
  split
  next hc => exact .word hs (hc ▸ .no)
  next hf =>
  split
  next hc => exact .number hs hc
  next hnumeral =>
  split
  next hc => exact .string hs hc
  next hquote =>
  split
  next hc =>
    subst hc
    cases ht : skipSpace t with
    | nil => exact .openArray hs ht
    | cons d t' =>
      by_cases hd : d = ']'
      · subst hd
        exact .emptyArray hs ht
      · split
        next h => cases h
        next h => cases h; exact absurd rfl hd
        next => exact .array hs ht hd rfl
  next hbracket =>
  split
  next hc =>
    cases ht : skipSpace t with
    | nil => exact .openObject hs hc ht
    | cons d t' =>
      dsimp only
      split
      next hd => exact .emptyObject hs hc ht hd
      next hd => exact .object hs hc ht hd rfl
  next hbrace =>
    refine .garbled hs ?_
    rintro ((h | h | h) | h | h | h | h)
    · exact hn h
    · exact ht h
    · exact hf h
    · exact hnumeral h
    · exact hquote h
    · exact hbracket h
    · exact hbrace h

theorem itemsStep (s : List Char) : ItemsStep fuel room s (readItems (fuel + 1) room s) := by
  rw [readItems]
  rcases hr : readValue fuel room s with ⟨r, _ | t⟩
  · exact .stopped hr
  dsimp only
  cases ht : skipSpace t with
  | nil => exact .cut hr ht
  | cons d t' =>
    split
    next h => cases h
    next h => cases h; exact .last hr ht
    next h => cases h; exact .more hr ht rfl
    next hclose hcomma =>
      exact .garbled hr ht ⟨fun h => hclose t' (h ▸ rfl), fun h => hcomma t' (h ▸ rfl)⟩

theorem membersStep (s : List Char) :
    MembersStep fuel room s (readMembers (fuel + 1) room s) := by
  rw [readMembers]
  split
  next k t hname =>
    split
    next ht => exact .bare hname ht
    next t' ht =>
      split
      next hr => exact .stopped hname ht hr
      next r after hr =>
        split
        next hafter => exact .cut hname ht hr hafter
        next hafter => exact .more hname ht hr hafter rfl
        next hcomma hafter =>
          split
          next hd => exact .last hname ht hr hafter hd
          next hd => exact .garbled hname ht hr hafter ⟨hcomma, hd⟩
    next hnil hcolon =>
      obtain ⟨d, t', ht⟩ := List.exists_cons_of_ne_nil hnil
      exact .unparted hname ht fun h => hcolon t' (h ▸ ht)
  next name after hne hname =>
    refine .unnamed hname fun k t h => ?_
    cases h
    exact hne k t rfl rfl

/-! ## Each of these is the step that is taken -/

variable {fuel room : Nat} {s : List Char}

theorem ValueStep.eq {x : Reading × Option (List Char)} (h : ValueStep fuel room s x) :
    readValue (fuel + 1) room s = x := by
  rw [readValue]
  cases h with
  | missing hs => rw [hs]
  | garbled hs hc =>
    simp only [Begins, not_or] at hc
    obtain ⟨⟨hn, ht, hf⟩, hnumeral, hquote, hbracket, hbrace⟩ := hc
    rw [hs]
    dsimp only
    rw [if_neg hn, if_neg ht, if_neg hf, if_neg (not_or.mpr hnumeral), if_neg hquote,
      if_neg hbracket, if_neg hbrace]
  | word hs hc => rw [hs]; cases hc <;> rfl
  | @number c t hs hc =>
    have hword : c ≠ 'n' ∧ c ≠ 't' ∧ c ≠ 'f' := by
      refine ⟨?_, ?_, ?_⟩ <;> rintro rfl <;> revert hc <;> decide
    rw [hs]
    dsimp only
    rw [if_neg hword.1, if_neg hword.2.1, if_neg hword.2.2, if_pos hc]
  | string hs hc =>
    obtain rfl := eq_ofNat hc
    rw [hs]
    rfl
  | openArray hs ht =>
    rw [hs]
    dsimp only
    rw [ht]
    rfl
  | emptyArray hs ht =>
    rw [hs]
    dsimp only
    rw [ht]
    rfl
  | array hs ht hd hitems =>
    rw [hs]
    dsimp only
    rw [if_neg (by decide), if_neg (by decide), if_neg (by decide), if_neg (by decide),
      if_neg (by decide), if_pos rfl, ht]
    split
    next h => cases h
    next h => exact absurd (List.cons.inj h).1 hd
    next => rw [hitems]
  | openObject hs hc ht =>
    obtain rfl := eq_ofNat hc
    rw [hs]
    dsimp only
    rw [ht]
    rfl
  | emptyObject hs hc ht hd =>
    obtain rfl := eq_ofNat hc
    obtain rfl := eq_ofNat hd
    rw [hs]
    dsimp only
    rw [ht]
    rfl
  | object hs hc ht hd hmembers =>
    obtain rfl := eq_ofNat hc
    rw [hs]
    dsimp only
    rw [ht, hmembers]
    exact if_neg hd

theorem ItemsStep.eq {x : List Reading × Option ReadError × Option (List Char)}
    (h : ItemsStep fuel room s x) : readItems (fuel + 1) room s = x := by
  rw [readItems]
  cases h with
  | stopped hr => rw [hr]
  | cut hr ht => rw [hr]; dsimp only; rw [ht]
  | last hr ht => rw [hr]; dsimp only; rw [ht]; rfl
  | more hr ht hitems => rw [hr]; dsimp only; rw [ht]; simp only [hitems]
  | garbled hr ht hd =>
    rw [hr]
    dsimp only
    rw [ht]
    split
    next h => cases h
    next h => exact absurd (List.cons.inj h).1 hd.1
    next h => exact absurd (List.cons.inj h).1 hd.2
    next => rfl

theorem MembersStep.eq {x : List (Reading × Reading) × Option ReadError × Option (List Char)}
    (h : MembersStep fuel room s x) : readMembers (fuel + 1) room s = x := by
  rw [readMembers]
  cases h with
  | unnamed hname hne =>
    rw [hname]
    split
    next h => exact absurd h (hne _ _)
    next h => cases h; rfl
  | bare hname ht => rw [hname]; dsimp only; rw [ht]
  | unparted hname ht hd =>
    rw [hname]
    dsimp only
    rw [ht]
    split
    next h => cases h
    next h => exact absurd (List.cons.inj h).1 hd
    next => rfl
  | stopped hname ht hr => simp only [hname, ht, hr]
  | cut hname ht hr hafter => simp only [hname, ht, hr, hafter]
  | more hname ht hr hafter hmembers => simp only [hname, ht, hr, hafter, hmembers]
  | last hname ht hr hafter hd =>
    obtain rfl := eq_ofNat hd
    simp only [hname, ht, hr, hafter]
    rfl
  | garbled hname ht hr hafter hd =>
    simp only [hname, ht, hr, hafter]
    split
    next h => cases h
    next h => exact absurd (List.cons.inj h).1 hd.1
    next h =>
      cases h
      exact if_neg hd.2

end LifecycleGuard.Json
