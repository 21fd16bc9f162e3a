import LifecycleGuard.Proofs.Json.Step

/-!
# What follows a value does not change it

A value that is read whole is read as the same when more text stands behind it, and what is left
over then is what was left over before with the new text behind it (`readValue_append`).  Only a
number has no end of its own, so what is put behind must not go on with it (`EndsNumber`).

The same statement with nothing put behind says that a larger bound of the recursion changes
nothing once a value has been read whole.

The statement is about the whole tree and not only about where the value ends.  For strings this
takes two readings apart: the one that passes over a string finds its end, and up to there the one
for its value does not look at what follows (`stringValue_append`).
-/

namespace LifecycleGuard.Json

/-! ## Strings -/

theorem skipString_append {s rest : List Char} (u : List Char) (h : skipString s = .ok rest) :
    skipString (s ++ u) = .ok (rest ++ u) := by
  fun_induction skipString s with
  | case4 a b c d tail n hn ih =>
    simp only [List.cons_append]
    rw [skipString]
    simp only [hn, ih h]
  | case6 e tail _ hu he ih =>
    simp only [List.cons_append]
    rw [skipString]
    · rw [if_pos he, ih h]
    · exact fun _ _ _ _ _ heq _ => hu heq
    · exact hu
  | case8 c tail hslash hmark =>
    cases h
    rw [List.cons_append, skipString]
    · rw [if_pos hmark]
    · exact hslash
  | case10 c tail hslash hmark hlow ih =>
    rw [List.cons_append, skipString]
    · rw [if_neg hmark, if_neg hlow, ih h]
    · exact hslash
  | _ => cases h

theorem map_fst_cons (x : Char) (e : Except ReadError (List Char × List Char)) :
    (do
      let (cs, r) ← e
      return (x :: cs, r)).map Prod.fst = (e.map Prod.fst).map (x :: ·) := by
  cases e <;> rfl

/-- What a string means does not depend on what follows it. -/
theorem stringValue_append {s rest : List Char} (u : List Char) (h : skipString s = .ok rest)
    (high : Option Nat) :
    (stringValue high (s ++ u)).map Prod.fst = (stringValue high s).map Prod.fst := by
  fun_induction skipString s generalizing high with
  | case4 a b c d tail n hn ih =>
    simp only [List.cons_append]
    rw [stringValue, stringValue]
    simp only [hn]
    cases high with
    | none =>
      dsimp only
      split
      · rfl
      · split
        · exact ih h _
        · rw [map_fst_cons, map_fst_cons, ih h]
    | some unit =>
      dsimp only
      split
      · rw [map_fst_cons, map_fst_cons, ih h]
      · rfl
  | case6 e tail _ hu he ih =>
    simp only [List.cons_append]
    rw [stringValue, stringValue]
    · cases high with
      | some unit => rfl
      | none =>
        obtain ⟨x, hx⟩ := Option.isSome_iff_exists.mp he
        simp only [Option.isSome_none, Bool.false_eq_true, if_false, hx]
        rw [map_fst_cons, map_fst_cons, ih h]
    all_goals first
      | exact hu
      | exact fun _ _ _ _ _ heq _ => hu heq
  | case8 c tail hslash hmark =>
    rw [List.cons_append, stringValue, stringValue]
    · simp only [hmark, if_true]
      split <;> rfl
    · exact hslash
    · exact hslash
  | case10 c tail hslash hmark hlow ih =>
    rw [List.cons_append, stringValue, stringValue]
    · simp only [hmark, hlow, if_false]
      split
      · rfl
      · rw [map_fst_cons, map_fst_cons, ih h]
    · exact hslash
    · exact hslash
  | _ => cases h

theorem readString_append {s rest : List Char} {t : Scalar String} (u : List Char)
    (h : readString s = (t, rest)) (hskip : t.skip = .ok ()) :
    readString (s ++ u) = (t, rest ++ u) := by
  unfold readString at h ⊢
  have hvalue : ∀ e : Except ReadError (List Char × List Char),
      e.map (fun r => String.ofList r.1) = (e.map Prod.fst).map String.ofList := by
    intro e
    cases e <;> rfl
  cases hs : skipString s with
  | error e =>
    rw [hs] at h
    cases h
    cases hskip
  | ok after =>
    rw [hs] at h
    cases h
    rw [skipString_append u hs]
    simp only [hvalue, stringValue_append u hs]

/-! ## Numbers -/

/-- The sign of an exponent and what follows it. -/
def exponentSign (s : List Char) : Bool × List Char :=
  match s with
  | '+' :: r => (false, r)
  | '-' :: r => (true, r)
  | _ => (false, s)

/-- An exponent behind its sign. -/
def readDigits (negative : Bool) (significand : Nat) (base : Int) (down : Bool) (s : List Char) :
    Scalar Number × List Char :=
  match s with
  | [] => (.broken .truncated .malformed, [])
  | c :: _ =>
    if Text.isDigit c then
      (⟨applyExponent negative significand base down (s.takeWhile Text.isDigit), .ok ()⟩,
        s.dropWhile Text.isDigit)
    else (.broken .malformed .malformed, s)

theorem readExponent_eq (negative : Bool) (significand : Nat) (base : Int) (s : List Char) :
    readExponent negative significand base s =
      readDigits negative significand base (exponentSign s).1 (exponentSign s).2 := rfl

theorem exponentSign_append {s : List Char} (hne : s ≠ []) (u : List Char) :
    exponentSign (s ++ u) = ((exponentSign s).1, (exponentSign s).2 ++ u) := by
  obtain ⟨c, s, rfl⟩ := List.exists_cons_of_ne_nil hne
  by_cases hplus : c = '+'
  · subst hplus
    rfl
  by_cases hminus : c = '-'
  · subst hminus
    rfl
  simp [exponentSign, hplus, hminus]

/-- A number without its sign behind its leading digits. -/
def behindDigits (negative : Bool) (ds s : List Char) : Scalar Number × List Char :=
  match s with
  | '.' :: r => readFraction negative (gather 0 ds).1 (gather 0 ds).2.length r
  | 'e' :: r => readExponent negative (gather 0 ds).1 (gather 0 ds).2.length r
  | 'E' :: r => readExponent negative (gather 0 ds).1 (gather 0 ds).2.length r
  | _ =>
    if (gather 0 ds).2.isEmpty then (⟨.ok (wholeNumber negative (gather 0 ds).1), .ok ()⟩, s)
    else (⟨scaled negative (gather 0 ds).1 (gather 0 ds).2.length, .ok ()⟩, s)

theorem behindDigits_of_plain {negative : Bool} {ds s : List Char}
    (h : ∀ c, s.head? = some c → c ≠ '.' ∧ c ≠ 'e' ∧ c ≠ 'E') :
    behindDigits negative ds s = ((behindDigits negative ds []).1, s) := by
  have hnil : behindDigits negative ds [] =
      if (gather 0 ds).2.isEmpty then (⟨.ok (wholeNumber negative (gather 0 ds).1), .ok ()⟩, [])
      else (⟨scaled negative (gather 0 ds).1 (gather 0 ds).2.length, .ok ()⟩, []) := rfl
  rcases s with _ | ⟨c, s⟩
  · rw [hnil]
    split <;> rfl
  · obtain ⟨hpoint, he, hE⟩ := h c rfl
    rw [hnil]
    unfold behindDigits
    split
    next heq => cases heq; exact absurd rfl hpoint
    next heq => cases heq; exact absurd rfl he
    next heq => cases heq; exact absurd rfl hE
    next => split <;> rfl

theorem readMagnitude_eq {negative : Bool} {s : List Char} (hne : s.takeWhile Text.isDigit ≠ [])
    (hzero : ∀ d ds, s.takeWhile Text.isDigit ≠ '0' :: d :: ds) :
    readMagnitude negative s =
      behindDigits negative (s.takeWhile Text.isDigit) (s.dropWhile Text.isDigit) := by
  unfold readMagnitude
  dsimp only
  split
  next h => exact absurd h hne
  next h => exact absurd h (hzero _ _)
  next => rfl

theorem behindDigits_of_readMagnitude {negative : Bool} {s rest : List Char} {n : Scalar Number}
    (h : readMagnitude negative s = (n, rest)) (hskip : n.skip = .ok ()) :
    s.takeWhile Text.isDigit ≠ [] ∧ (∀ d ds, s.takeWhile Text.isDigit ≠ '0' :: d :: ds) ∧
      behindDigits negative (s.takeWhile Text.isDigit) (s.dropWhile Text.isDigit) = (n, rest) := by
  unfold readMagnitude at h
  dsimp only at h
  split at h
  next => cases h; cases hskip
  next => cases h; cases hskip
  next hne hzero => exact ⟨hne, hzero, h⟩

section Numbers

variable {u : List Char} (hu : EndsNumber u) {negative : Bool} {significand : Nat} {base : Int}
  {s rest : List Char} {n : Scalar Number}

include hu

theorem takeWhile_isDigit_append (s : List Char) :
    (s ++ u).takeWhile Text.isDigit = s.takeWhile Text.isDigit := by
  have hstop : Text.NoDigitFirst u := fun c hc => (hu c hc).1
  induction s with
  | nil =>
    cases u with
    | nil => rfl
    | cons c u => simp [Text.noDigitFirst_cons.mp hstop]
  | cons c s ih => simp only [List.cons_append, List.takeWhile_cons, ih]

theorem dropWhile_isDigit_append (s : List Char) :
    (s ++ u).dropWhile Text.isDigit = s.dropWhile Text.isDigit ++ u := by
  have hstop : Text.NoDigitFirst u := fun c hc => (hu c hc).1
  induction s with
  | nil =>
    cases u with
    | nil => rfl
    | cons c u => simp [Text.noDigitFirst_cons.mp hstop]
  | cons c s ih =>
    simp only [List.cons_append, List.dropWhile_cons, ih]
    split <;> rfl

theorem readDigits_append {down : Bool}
    (h : readDigits negative significand base down s = (n, rest)) (hskip : n.skip = .ok ()) :
    readDigits negative significand base down (s ++ u) = (n, rest ++ u) := by
  cases s with
  | nil => cases h; cases hskip
  | cons c s =>
    have htake := takeWhile_isDigit_append hu (c :: s)
    have hdrop := dropWhile_isDigit_append hu (c :: s)
    simp only [List.cons_append] at htake hdrop ⊢
    simp only [readDigits, htake, hdrop] at h ⊢
    split at h
    next hc => rw [if_pos hc]; cases h; rfl
    next hc => cases h; cases hskip

theorem readExponent_append (h : readExponent negative significand base s = (n, rest))
    (hskip : n.skip = .ok ()) :
    readExponent negative significand base (s ++ u) = (n, rest ++ u) := by
  by_cases hne : s = []
  · subst hne
    cases h
    cases hskip
  · rw [readExponent_eq] at h ⊢
    rw [exponentSign_append hne]
    exact readDigits_append hu h hskip

theorem readFraction_append (h : readFraction negative significand base s = (n, rest))
    (hskip : n.skip = .ok ()) :
    readFraction negative significand base (s ++ u) = (n, rest ++ u) := by
  unfold readFraction at h ⊢
  rw [takeWhile_isDigit_append hu, dropWhile_isDigit_append hu]
  dsimp only at h ⊢
  split at h
  next => cases h; cases hskip
  next hne =>
    rw [if_neg hne]
    generalize s.dropWhile Text.isDigit = tail at h ⊢
    rcases tail with _ | ⟨c, tail⟩
    · cases h
      rcases u with _ | ⟨c, u⟩
      · rfl
      · obtain ⟨-, -, he, hE⟩ := hu c rfl
        simp [he, hE]
    · by_cases he : c = 'e'
      · subst he
        exact readExponent_append hu h hskip
      by_cases hE : c = 'E'
      · subst hE
        exact readExponent_append hu h hskip
      split at h
      next heq => exact absurd (List.cons.inj heq).1 he
      next heq => exact absurd (List.cons.inj heq).1 hE
      next =>
        cases h
        rw [List.cons_append]
        split
        next heq => exact absurd (List.cons.inj heq).1 he
        next heq => exact absurd (List.cons.inj heq).1 hE
        next => rfl

theorem behindDigits_append {ds : List Char} (h : behindDigits negative ds s = (n, rest))
    (hskip : n.skip = .ok ()) : behindDigits negative ds (s ++ u) = (n, rest ++ u) := by
  -- Nothing goes on with the number but a point or an exponent.
  have hplain : (∀ c, s.head? = some c → c ≠ '.' ∧ c ≠ 'e' ∧ c ≠ 'E') →
      (∀ c, (s ++ u).head? = some c → c ≠ '.' ∧ c ≠ 'e' ∧ c ≠ 'E') →
      behindDigits negative ds (s ++ u) = (n, rest ++ u) := by
    intro hs hsu
    rw [behindDigits_of_plain hs] at h
    rw [behindDigits_of_plain hsu]
    cases h
    rfl
  rcases s with _ | ⟨c, s⟩
  · exact hplain (by simp) fun c hc => (hu c hc).2
  · by_cases hpoint : c = '.'
    · subst hpoint
      exact readFraction_append hu h hskip
    by_cases he : c = 'e'
    · subst he
      exact readExponent_append hu h hskip
    by_cases hE : c = 'E'
    · subst hE
      exact readExponent_append hu h hskip
    exact hplain (by simp [hpoint, he, hE]) (by simp [hpoint, he, hE])

theorem readMagnitude_append (h : readMagnitude negative s = (n, rest)) (hskip : n.skip = .ok ()) :
    readMagnitude negative (s ++ u) = (n, rest ++ u) := by
  obtain ⟨hne, hzero, hbehind⟩ := behindDigits_of_readMagnitude h hskip
  have hbehind := behindDigits_append hu hbehind hskip
  rw [← takeWhile_isDigit_append hu] at hne hzero hbehind
  rw [← dropWhile_isDigit_append hu] at hbehind
  rw [readMagnitude_eq hne hzero, hbehind]

theorem readNumber_append (h : readNumber s = (n, rest)) (hskip : n.skip = .ok ()) :
    readNumber (s ++ u) = (n, rest ++ u) := by
  rcases s with _ | ⟨c, s⟩
  · cases h
    cases hskip
  · by_cases hminus : c = '-'
    · subst hminus
      exact readMagnitude_append hu h hskip
    · have hread : ∀ t : List Char, readNumber (c :: t) = readMagnitude false (c :: t) := by
        intro t
        rw [readNumber]
        simpa using hminus
      rw [hread] at h
      rw [List.cons_append, hread]
      exact readMagnitude_append hu h hskip

end Numbers

/-! ## Values -/

theorem skipSpace_append {s t : List Char} {c : Char} (h : skipSpace s = c :: t) (u : List Char) :
    skipSpace (s ++ u) = c :: (t ++ u) := by
  unfold skipSpace at *
  rw [List.dropWhile_append, h]
  rfl

theorem expectWord_append {word s rest : List Char} (h : expectWord word s = .ok rest)
    (u : List Char) : expectWord word (s ++ u) = .ok (rest ++ u) := by
  induction word generalizing s with
  | nil =>
    cases h
    rfl
  | cons w word ih =>
    cases s with
    | nil => cases h
    | cons c s =>
      rw [expectWord] at h
      rw [List.cons_append, expectWord]
      split at h
      next hc => rw [if_pos hc, ih h]
      next => cases h

theorem readWord_append {word s rest : List Char} {value r : Reading}
    (h : readWord word value s = (r, some rest)) (u : List Char) :
    readWord word value (s ++ u) = (r, some (rest ++ u)) := by
  unfold readWord at h ⊢
  cases hword : expectWord word s with
  | error f => rw [hword] at h; cases h
  | ok after =>
    rw [hword] at h
    rw [expectWord_append hword u]
    cases h
    rfl

theorem afterScalar_eq_some {α : Type} {n : Scalar α} {after rest : List Char}
    (h : afterScalar n after = some rest) : n.skip = .ok () ∧ after = rest := by
  unfold afterScalar at h
  split at h
  next hskip => exact ⟨hskip, Option.some.inj h⟩
  next => cases h

/-- A scalar that is read whole, with what follows it. -/
theorem scalar_append {α : Type} {read : List Char → Scalar α × List Char}
    {leaf : Scalar α → Reading} {s u rest : List Char} {r : Reading}
    (hread : ∀ n after, read s = (n, after) → n.skip = .ok () → read (s ++ u) = (n, after ++ u))
    (h : (leaf (read s).1, afterScalar (read s).1 (read s).2) = (r, some rest)) :
    (leaf (read (s ++ u)).1, afterScalar (read (s ++ u)).1 (read (s ++ u)).2) =
      (r, some (rest ++ u)) := by
  obtain ⟨hr, hafter⟩ := Prod.mk.inj h
  obtain ⟨hskip, hrest⟩ := afterScalar_eq_some hafter
  rw [hread _ _ rfl hskip, hrest, ← hr]
  simp [afterScalar, hskip]

theorem readName_append {s rest : List Char} {r : Reading} (h : readName s = (r, some rest))
    (u : List Char) : readName (s ++ u) = (r, some (rest ++ u)) := by
  unfold readName at h ⊢
  cases hs : skipSpace s with
  | nil => rw [hs] at h; cases h
  | cons c t =>
    rw [hs] at h
    rw [skipSpace_append hs u]
    dsimp only at h ⊢
    split at h
    next hc =>
      rw [if_pos hc]
      exact scalar_append (fun _ _ => readString_append u) h
    next => cases h

mutual

/-- A value that is read whole is the same in front of anything that does not go on with a
number, whatever more the recursion is allowed. -/
theorem readValue_append {u : List Char} (hu : EndsNumber u) : ∀ (fuel more room : Nat)
    (s rest : List Char) (r : Reading), readValue fuel room s = (r, some rest) →
    readValue (fuel + more) room (s ++ u) = (r, some (rest ++ u))
  | 0, _, _, _, _, _, h => by cases h
  | fuel + 1, more, room, s, rest, r, h => by
    rw [Nat.succ_add_eq_add_succ, Nat.add_succ]
    refine ValueStep.eq ?_
    have hstep := valueStep fuel room s
    generalize readValue (fuel + 1) room s = x at h hstep
    cases hstep with
    | missing => cases h
    | garbled => cases h
    | word hs hc =>
      rw [← readWord_append h u]
      exact .word (skipSpace_append hs u) hc
    | number hs hc =>
      rw [← scalar_append (fun _ _ => readNumber_append hu) h]
      exact .number (skipSpace_append hs u) hc
    | string hs hc =>
      rw [← scalar_append (fun _ _ => readString_append u) h]
      exact .string (skipSpace_append hs u) hc
    | openArray => cases h
    | emptyArray hs ht =>
      cases h
      exact .emptyArray (skipSpace_append hs u) (skipSpace_append ht u)
    | array hs ht hd hitems =>
      cases h
      exact .array (skipSpace_append hs u) (skipSpace_append ht u) hd
        (readItems_append hu fuel more _ _ _ _ _ hitems)
    | openObject => cases h
    | emptyObject hs hc ht hd =>
      cases h
      exact .emptyObject (skipSpace_append hs u) hc (skipSpace_append ht u) hd
    | object hs hc ht hd hmembers =>
      cases h
      exact .object (skipSpace_append hs u) hc (skipSpace_append ht u) hd
        (readMembers_append hu fuel more _ _ _ _ _ hmembers)

theorem readItems_append {u : List Char} (hu : EndsNumber u) : ∀ (fuel more room : Nat)
    (s rest : List Char) (items : List Reading) (close : Option ReadError),
    readItems fuel room s = (items, close, some rest) →
    readItems (fuel + more) room (s ++ u) = (items, close, some (rest ++ u))
  | 0, _, _, _, _, _, _, h => by cases h
  | fuel + 1, more, room, s, rest, items, close, h => by
    rw [Nat.succ_add_eq_add_succ, Nat.add_succ]
    refine ItemsStep.eq ?_
    have hvalue := readValue_append hu fuel more room
    have hstep := itemsStep fuel room s
    generalize readItems (fuel + 1) room s = x at h hstep
    cases hstep with
    | last hr ht =>
      cases h
      exact .last (hvalue _ _ _ hr) (skipSpace_append ht u)
    | more hr ht hitems =>
      cases h
      exact .more (hvalue _ _ _ hr) (skipSpace_append ht u)
        (readItems_append hu fuel more _ _ _ _ _ hitems)
    | _ => cases h

theorem readMembers_append {u : List Char} (hu : EndsNumber u) : ∀ (fuel more room : Nat)
    (s rest : List Char) (members : List (Reading × Reading)) (close : Option ReadError),
    readMembers fuel room s = (members, close, some rest) →
    readMembers (fuel + more) room (s ++ u) = (members, close, some (rest ++ u))
  | 0, _, _, _, _, _, _, h => by cases h
  | fuel + 1, more, room, s, rest, members, close, h => by
    rw [Nat.succ_add_eq_add_succ, Nat.add_succ]
    refine MembersStep.eq ?_
    have hvalue := readValue_append hu fuel more room
    have hstep := membersStep fuel room s
    generalize readMembers (fuel + 1) room s = x at h hstep
    cases hstep with
    | last hname ht hr hafter hd =>
      cases h
      exact .last (readName_append hname u) (skipSpace_append ht u) (hvalue _ _ _ hr)
        (skipSpace_append hafter u) hd
    | more hname ht hr hafter hmembers =>
      cases h
      exact .more (readName_append hname u) (skipSpace_append ht u) (hvalue _ _ _ hr)
        (skipSpace_append hafter u) (readMembers_append hu fuel more _ _ _ _ _ hmembers)
    | _ => cases h

end

end LifecycleGuard.Json
