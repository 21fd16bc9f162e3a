import LifecycleGuard.Proofs.Text.Digit
import LifecycleGuard.Time.Rfc3339

/-!
# Time stamps read back

Every instant is read from its written form, for every year of the calendar, every width of the
fraction and the inserted second at the end of a minute.

One lemma for each part says that the reader takes that part from the front of a text and leaves
what follows: `year?_yearChars`, `field?_padded`, `fraction?_fractionChars`.  A year has no fixed
length, so the reader finds its end at the hyphen behind it.  `turnBack?_zero` says that a
difference of no minutes to universal time leaves an instant as it is.
-/

namespace LifecycleGuard.Rfc3339

open Text (isDigit padded NoDigitFirst)

variable {rest : List Char}

/-! ## Numbers -/

theorem dropBlanks_cons {c : Char} (h : Text.isBlank c = false) :
    Text.dropBlanks (c :: rest) = c :: rest := by
  simp [Text.dropBlanks, h]

theorem dropBlanks_digits {ds : List Char} (hds : ∀ c ∈ ds, isDigit c = true) (hne : ds ≠ []) :
    Text.dropBlanks (ds ++ rest) = ds ++ rest := by
  obtain ⟨d, ds, rfl⟩ := List.exists_cons_of_ne_nil hne
  exact dropBlanks_cons (Text.isBlank_of_isDigit (hds d List.mem_cons_self))

/-- A number ends where its digits do or where no more are wanted. -/
theorem number?_digits {most : Nat} {ds : List Char} (hds : ∀ c ∈ ds, isDigit c = true)
    (hne : ds ≠ []) (hlength : ds.length ≤ most)
    (hend : ds.length = most ∨ NoDigitFirst rest) :
    number? most (ds ++ rest) = some (Text.value ds, rest) := by
  have hstop : NoDigitFirst (rest.take (most - ds.length)) := by
    rcases hend with h | h
    · simpa [h] using Text.noDigitFirst_nil
    · intro c hc
      refine h c ?_
      cases rest with
      | nil => simp at hc
      | cons d rest =>
        cases hk : most - ds.length <;> simp_all
  have htaken : ((ds ++ rest).take most).takeWhile isDigit = ds := by
    rw [List.take_append, List.take_of_length_le hlength]
    exact Text.takeWhile_digits hds hstop
  simp [number?, htaken, hne]

theorem padded_ne_nil {k n : Nat} : padded (k + 1) n ≠ [] := by simp [padded]

theorem field?_padded {n : Nat} (h : n < 100) : field? (padded 2 n ++ rest) = some (n, rest) := by
  have hds : ∀ c ∈ padded 2 n, isDigit c = true := fun c => Text.isDigit_of_mem_padded
  rw [field?, dropBlanks_digits hds padded_ne_nil,
    number?_digits hds padded_ne_nil (by simp) (.inl (by simp)), Text.value_padded h]

theorem mark?_cons {c : Char} (h : Text.isBlank c = false) : mark? c (c :: rest) = some rest := by
  rw [mark?, dropBlanks_cons h]
  simp

/-! ## The parts of a time stamp -/

/-- The digits of a year outside 0 to 9999, behind its sign. -/
theorem number?_longYear (n : Nat) (h : NoDigitFirst rest) :
    let ds := if n < 10000 then padded 4 n else Nat.toDigits 10 n
    number? (ds ++ rest).length (ds ++ rest) = some (n, rest) := by
  dsimp only
  split
  next hn =>
    have hds : ∀ c ∈ padded 4 n, isDigit c = true := fun c => Text.isDigit_of_mem_padded
    rw [number?_digits hds padded_ne_nil (by simp) (.inr h), Text.value_padded hn]
  next =>
    have hds : ∀ c ∈ Nat.toDigits 10 n, isDigit c = true := fun c => Text.isDigit_of_mem_toDigits
    rw [number?_digits hds Nat.toDigits_ne_nil (by simp) (.inr h), Text.value_toDigits]

/-- A year that begins with a digit has no sign. -/
theorem year?_digits {ds : List Char} (hds : ∀ c ∈ ds, isDigit c = true) (hne : ds ≠ []) :
    year? (ds ++ rest) = (number? 4 (ds ++ rest)).map fun x => ((x.1 : Int), x.2) := by
  obtain ⟨d, ds, rfl⟩ := List.exists_cons_of_ne_nil hne
  have hd : isDigit d = true := hds d List.mem_cons_self
  rw [year?, dropBlanks_digits hds hne]
  split
  next h => cases h; cases hd
  next h => cases h; cases hd
  next => rfl

theorem year?_yearChars (year : Int) (h : NoDigitFirst rest) :
    year? (yearChars year ++ rest) = some (year, rest) := by
  unfold yearChars
  by_cases hplain : 0 ≤ year ∧ year ≤ 9999
  · have hds : ∀ c ∈ padded 4 year.toNat, isDigit c = true := fun c => Text.isDigit_of_mem_padded
    have hroom : year.toNat < Nat.pow 10 4 := by
      show year.toNat < 10000
      omega
    have hvalue := Text.value_padded hroom
    have hback : (year.toNat : Int) = year := by omega
    rw [if_pos hplain, year?_digits hds padded_ne_nil,
      number?_digits hds padded_ne_nil (by simp) (.inl (by simp)), hvalue, Option.map_some, hback]
  · have hnumber := number?_longYear year.natAbs h
    dsimp only at hnumber
    rw [if_neg hplain, List.cons_append]
    by_cases hneg : year < 0
    · have hback : -(year.natAbs : Int) = year := by omega
      rw [if_pos hneg, year?, dropBlanks_cons (by decide)]
      simp only [hnumber, Option.map_some, hback]
    · have hback : (year.natAbs : Int) = year := by omega
      rw [if_neg hneg, year?, dropBlanks_cons (by decide)]
      simp only [hnumber, Option.map_some, hback]

/-- A fraction with some of its nine digits left out, which are zeros. -/
theorem fraction?_padded {k n : Nat} (hk : k < 9) (hn : n < Nat.pow 10 (k + 1))
    (hrest : NoDigitFirst rest) :
    fraction? ('.' :: padded (k + 1) n ++ rest) = some (n * Nat.pow 10 (9 - (k + 1)), rest) := by
  have hds : ∀ c ∈ padded (k + 1) n, isDigit c = true := fun c => Text.isDigit_of_mem_padded
  have hkept : (padded (k + 1) n).take 9 = padded (k + 1) n :=
    List.take_of_length_le (by simp; omega)
  rw [List.cons_append, fraction?, Text.takeWhile_digits hds hrest]
  simp [hkept, Text.value_padded hn, padded_ne_nil]

theorem fraction?_fractionChars {nano : Nat} (h : nano < 1000000000) (hrest : NoDigitFirst rest)
    (hpoint : rest.head? ≠ some '.') :
    fraction? (fractionChars nano ++ rest) = some (nano, rest) := by
  unfold fractionChars
  split
  next hzero =>
    rw [List.nil_append, fraction?, hzero]
    rintro s rfl
    exact hpoint rfl
  next =>
  split
  next hmilli =>
    have hback : nano / 1000000 * Nat.pow 10 (9 - (2 + 1)) = nano := by
      show nano / 1000000 * 1000000 = nano
      omega
    rw [fraction?_padded (k := 2) (by decide) (by show _ < 1000; omega) hrest, hback]
  next =>
  split
  next hmicro =>
    have hback : nano / 1000 * Nat.pow 10 (9 - (5 + 1)) = nano := by
      show nano / 1000 * 1000 = nano
      omega
    rw [fraction?_padded (k := 5) (by decide) (by show _ < 1000000; omega) hrest, hback]
  next =>
    have hback : nano * Nat.pow 10 (9 - (8 + 1)) = nano := Nat.mul_one nano
    rw [fraction?_padded (k := 8) (by decide) h hrest, hback]

/-! ## Instants -/

/-- A clock that is not turned shows the same time. -/
theorem turnBack?_zero (t : Instant) : t.turnBack? 0 = some t := by
  obtain ⟨hhour, hminute, -, -⟩ := t.valid
  have hlow : ¬ ((t.hour * 60 + t.minute : Nat) - (0 : Int) < 0) := by omega
  have hhigh : ¬ (1440 ≤ (t.hour * 60 + t.minute : Nat) - (0 : Int)) := by omega
  have hback : (((t.hour * 60 + t.minute : Nat) - (0 : Int)) / 60).toNat = t.hour ∧
      (((t.hour * 60 + t.minute : Nat) - (0 : Int)) % 60).toNat = t.minute := by omega
  rw [Instant.turnBack?, if_neg hlow, if_neg hhigh, hback.1, hback.2, Instant.of?, dif_pos t.valid]

theorem bind_of_eq_some {α β : Type} {o : Option α} {x : α} (h : o = some x)
    (f : α → Option β) : (o >>= f) = f x := by
  rw [h]
  rfl

/-- A text is read part by part. -/
theorem readChars_of_parts {t : Instant} {s s₁ s₂ s₃ s₄ s₅ s₆ s₇ : List Char}
    (hyear : year? s = some (t.date.year, '-' :: s₁))
    (hmonth : field? s₁ = some (t.date.month, '-' :: s₂))
    (hday : field? s₂ = some (t.date.day, 'T' :: s₃))
    (hhour : field? s₃ = some (t.hour, ':' :: s₄))
    (hminute : field? s₄ = some (t.minute, ':' :: s₅))
    (hsecond : field? s₅ = some (t.second, s₆)) (hnano : fraction? s₆ = some (t.nano, s₇))
    (hoffset : offset? (Text.dropBlanks s₇) = some (0, rest)) :
    readChars s = some (t, rest) := by
  have hhyphen : ∀ s : List Char, mark? '-' ('-' :: s) = some s := fun _ => mark?_cons (by decide)
  have hcolon : ∀ s : List Char, mark? ':' (':' :: s) = some s := fun _ => mark?_cons (by decide)
  have hcivil : Instant.of? t.date t.hour t.minute t.second t.nano = some t := by
    rw [Instant.of?, dif_pos t.valid]
  refine (bind_of_eq_some hyear _).trans ?_
  refine (bind_of_eq_some (hhyphen s₁) _).trans ?_
  refine (bind_of_eq_some hmonth _).trans ?_
  refine (bind_of_eq_some (hhyphen s₂) _).trans ?_
  refine (bind_of_eq_some hday _).trans ?_
  refine (bind_of_eq_some rfl _).trans ?_
  refine (bind_of_eq_some hhour _).trans ?_
  refine (bind_of_eq_some (hcolon s₄) _).trans ?_
  refine (bind_of_eq_some hminute _).trans ?_
  refine (bind_of_eq_some (hcolon s₅) _).trans ?_
  refine (bind_of_eq_some hsecond _).trans ?_
  refine (bind_of_eq_some hnano _).trans ?_
  refine (bind_of_eq_some hoffset _).trans ?_
  refine (bind_of_eq_some (Date.of?_fields t.date) _).trans ?_
  refine (bind_of_eq_some hcivil _).trans ?_
  exact bind_of_eq_some (turnBack?_zero t) _

/-- An instant is taken from the front of what was written for it. -/
theorem readChars_chars (t : Instant) : readChars (chars t) = some (t, []) := by
  obtain ⟨-, -, hmonth, hmonth', hday, hday'⟩ := t.date.valid
  obtain ⟨hhour, hminute, hsecond, hnano⟩ := t.valid
  have hday'' : t.date.day < 100 := by
    have : Calendar.monthLength t.date.year t.date.month ≤ 31 := by
      unfold Calendar.monthLength
      repeat' split
      all_goals decide
    omega
  have hhyphen : ∀ s : List Char, NoDigitFirst ('-' :: s) := fun s =>
    Text.noDigitFirst_cons.mpr (by decide)
  have hz : NoDigitFirst ['Z'] := Text.noDigitFirst_cons.mpr (by decide)
  have hchars : chars t = yearChars t.date.year ++ '-' :: (padded 2 t.date.month ++
      '-' :: (padded 2 t.date.day ++ 'T' :: (padded 2 t.hour ++ ':' :: (padded 2 t.minute ++
        ':' :: (padded 2 t.second ++ (fractionChars t.nano ++ ['Z'])))))) := by
    simp only [chars, secondChars, List.append_assoc, List.cons_append]
  rw [hchars]
  exact readChars_of_parts (year?_yearChars t.date.year (hhyphen _)) (field?_padded (by omega))
    (field?_padded hday'') (field?_padded (by omega)) (field?_padded (by omega))
    (field?_padded (by omega)) (fraction?_fractionChars hnano hz (by decide)) rfl

/-- **An instant reads back from its written form.** -/
theorem parse?_render (t : Instant) : parse? (render t) = some t := by
  rw [parse?, render, String.toList_ofList, readChars_chars]
  rfl

end LifecycleGuard.Rfc3339
