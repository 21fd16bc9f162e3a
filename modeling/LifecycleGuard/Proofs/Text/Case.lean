import LifecycleGuard.Proofs.Text.Blank
import LifecycleGuard.Text.Case

/-!
# Lower case

A text in lower case consists of characters that lower-casing leaves as they are
(`settled_of_mem_lowered`, `lowerAfter_of_settled`), and a text without blanks at its ends or
without a colon in front stays one.

**The table.** A run of `CaseTable.lowerRuns` `misses` another if none of its lower-case forms is
named by that one.  `runs_final` compares the ends of the runs, two by two, without a walk through
the characters: every run misses every run, and is `placed` off the blanks and off what is no
character.  So a lower-case form is `Final` (`final_of_form`).

**Characters.** `form_of_lowerChar`: what a character becomes is a `Form` of it, which is settled,
and which is a blank or a colon only if it is the character itself.

**Texts.** The form of a capital sigma depends on the text around it, so `lowerAfter` is no map.
`lowerAfter_cons` gives what all its steps have in common.
-/

namespace LifecycleGuard.Text

/-! ## The table -/

namespace CaseTable

/-- The lower-case form of the first code point of a run. -/
def Run.low (r : Run) : Nat := (r.first + r.shift).toNat

/-- The lower-case form of the last code point of a run. -/
def Run.high (r : Run) : Nat := (r.last + r.shift).toNat

/-- None of the lower-case forms of a run is named by another: they lie apart from its code points,
or between them. -/
def Run.misses (r q : Run) : Bool :=
  (Nat.blt r.high q.first || Nat.blt q.last r.low) ||
    ((r.step == 2 || r.first == r.last) && q.step == 2 && (r.low + q.first) % 2 == 1)

/-- The code points behind the small letters of ASCII that are no lower-case forms: the rest of
ASCII, the capital I with a dot, the blanks, and what is no character. -/
def unused : List (Nat × Nat) :=
  [(0x7b, 0x7f), (0x85, 0x85), (0xa0, 0xa0), (0x130, 0x130), (0x1680, 0x1680), (0x2000, 0x200a),
   (0x2028, 0x2029), (0x202f, 0x202f), (0x205f, 0x205f), (0x3000, 0x3000), (0xd800, 0xdfff)]

/-- The forms of a run are small letters of ASCII or stand behind these, and in use. -/
def Run.placed (r : Run) : Bool :=
  Nat.ble 0x61 r.low && Nat.blt r.high 0x110000 &&
    unused.all fun range => Nat.blt r.high range.1 || Nat.blt range.2 r.low

theorem runs_final : (lowerRuns.all fun r => r.placed && lowerRuns.all r.misses) = true := by
  decide +kernel

theorem Run.shift?_eq_some_iff {r : Run} {c : Nat} {d : Int} : r.shift? c = some d ↔
    (r.first ≤ c ∧ c ≤ r.last ∧ (c - r.first) % r.step = 0) ∧ r.shift = d := by
  rw [shift?, Option.ite_none_right_eq_some, Option.some.injEq]

theorem Run.shift?_eq_none_of_misses {r q : Run} {c : Nat} {d : Int} (h : r.misses q = true)
    (hlow : 0 < r.low) (hc : r.shift? c = some d) : q.shift? (c + d).toNat = none := by
  obtain ⟨⟨hfirst, hlast, hstep⟩, rfl⟩ := Run.shift?_eq_some_iff.mp hc
  simp only [Run.misses, Run.low, Run.high, Bool.or_eq_true, Bool.and_eq_true, Nat.blt_eq,
    beq_iff_eq] at h hlow
  refine if_neg fun ⟨hfirst', hlast', hstep'⟩ => ?_
  obtain (hbelow | habove) | ⟨⟨hr, hq⟩, hodd⟩ := h
  · omega
  · omega
  · rw [hq] at hstep'
    have heven : (c - r.first) % 2 = 0 := by
      obtain hr | hr := hr
      · rwa [hr] at hstep
      · omega
    omega

/-- A code point that may be a lower-case form and has none. -/
structure Final (n : Nat) : Prop where
  low : 0x61 ≤ n
  high : n < 0x110000
  used : within unused n = false
  noForm : lowerRuns.findSome? (·.shift? n) = none

instance (n : Nat) : Decidable (Final n) :=
  decidable_of_iff (0x61 ≤ n ∧ n < 0x110000 ∧ within unused n = false ∧
      lowerRuns.findSome? (·.shift? n) = none)
    ⟨fun ⟨hlow, hhigh, hused, hnone⟩ => ⟨hlow, hhigh, hused, hnone⟩,
      fun ⟨hlow, hhigh, hused, hnone⟩ => ⟨hlow, hhigh, hused, hnone⟩⟩

/-- A lower-case form is final. -/
theorem final_of_form {c : Nat} {d : Int} (h : lowerRuns.findSome? (·.shift? c) = some d) :
    Final (c + d).toNat := by
  obtain ⟨r, hr, hc⟩ := List.exists_of_findSome?_eq_some h
  have hfinal := List.all_eq_true.mp runs_final r hr
  simp only [Run.placed, Bool.and_eq_true, Nat.ble_eq, Nat.blt_eq, List.all_eq_true,
    Bool.or_eq_true] at hfinal
  obtain ⟨⟨⟨hlow, hhigh⟩, hplaced⟩, hmisses⟩ := hfinal
  have hnone : ∀ q ∈ lowerRuns, q.shift? (c + d).toNat = none := fun q hq =>
    Run.shift?_eq_none_of_misses (hmisses q hq) (by omega) hc
  obtain ⟨⟨hfirst, hlast, -⟩, rfl⟩ := Run.shift?_eq_some_iff.mp hc
  simp only [Run.low, Run.high] at hlow hhigh hplaced
  refine ⟨by omega, by omega, ?_, List.findSome?_eq_none_iff.mpr hnone⟩
  rw [within, List.any_eq_false]
  intro range hrange
  have hapart := hplaced range hrange
  simp only [Bool.and_eq_true, decide_eq_true_eq]
  omega

theorem Final.toNat_ofNat {n : Nat} (h : Final n) : (Char.ofNat n).toNat = n := by
  obtain ⟨-, hhigh, hused, -⟩ := h
  simp only [within, unused, List.any_cons, List.any_nil, Bool.or_false, Bool.or_eq_false_iff,
    Bool.and_eq_false_iff, decide_eq_false_iff_not, Nat.not_le] at hused
  have hvalid : n.isValidChar := by
    unfold Nat.isValidChar
    omega
  rw [Char.ofNat, dif_pos hvalid]
  rfl

end CaseTable

/-! ## Characters -/

/-- A character that lower-casing leaves as it is, wherever it stands. -/
structure Settled (c : Char) : Prop where
  noSigma : c ≠ 'Σ'
  lower : lowerChar c = [c]

/-- What a character may become: a settled one, and none that marks the end of a name unless it
was there before. -/
structure Form (c d : Char) : Prop where
  settled : Settled d
  mark : isBlank d = true ∨ d = ':' → d = c

/-- ASCII is lower-cased once, and only its capital letters change. -/
theorem ascii_forms : ∀ n < 0x80, (Char.ofNat n).toLower.toNat < 0x80 ∧
    (Char.ofNat n).toLower.toLower = (Char.ofNat n).toLower ∧
    (isBlank (Char.ofNat n).toLower = true ∨ (Char.ofNat n).toLower = ':' ∨ 0x61 ≤ n →
      (Char.ofNat n).toLower = Char.ofNat n) := by
  decide +kernel

theorem form_of_ascii {c : Char} (hc : c.toNat < 0x80) : Form c c.toLower := by
  obtain ⟨hascii, htwice, hmark⟩ := ascii_forms c.toNat hc
  rw [Char.ofNat_toNat] at hascii htwice hmark
  refine ⟨⟨fun hsigma => ?_, ?_⟩, fun h => hmark (h.imp_right .inl)⟩
  · rw [hsigma] at hascii
    exact absurd hascii (by decide)
  · rw [lowerChar, if_pos hascii, htwice]

/-- A character in a final place is settled and does not mark the end of a name. -/
theorem form_of_final {c d : Char} (h : CaseTable.Final d.toNat) : Form c d := by
  obtain ⟨hlow, hhigh, hused, hnone⟩ := h
  simp only [CaseTable.within, CaseTable.unused, List.any_cons, List.any_nil, Bool.or_false,
    Bool.or_eq_false_iff, Bool.and_eq_false_iff, decide_eq_false_iff_not, Nat.not_le] at hused
  refine ⟨⟨fun hsigma => ?_, ?_⟩, fun hmark => absurd hmark (not_or.mpr ⟨?_, ?_⟩)⟩
  · rw [hsigma] at hnone
    exact absurd hnone (by decide +kernel)
  · by_cases hascii : d.toNat < 0x80
    · obtain ⟨-, -, hsame⟩ := ascii_forms d.toNat hascii
      rw [Char.ofNat_toNat] at hsame
      rw [lowerChar, if_pos hascii, hsame (.inr (.inr hlow))]
    · rw [lowerChar, if_neg hascii, if_neg (by omega), hnone]
  · simp only [isBlank, Bool.or_eq_true, Bool.and_eq_true, decide_eq_true_eq, beq_iff_eq]
    omega
  · rintro rfl
    exact absurd hlow (by decide)

/-- What a character becomes. -/
theorem form_of_lowerChar {c d : Char} (hc : c ≠ 'Σ') (hd : d ∈ lowerChar c) : Form c d := by
  unfold lowerChar at hd
  split at hd
  case isTrue hascii =>
    obtain rfl : d = c.toLower := by simpa using hd
    exact form_of_ascii hascii
  case isFalse hascii =>
  split at hd
  case isTrue hdotted =>
    obtain rfl | rfl : d = 'i' ∨ d = Char.ofNat 0x307 := by simpa using hd
    · exact form_of_final (by decide +kernel)
    · exact form_of_final (by decide +kernel)
  case isFalse hdotted =>
  split at hd
  case h_1 shift hshift =>
    obtain rfl : d = Char.ofNat (c.toNat + shift).toNat := by simpa using hd
    have hfinal := CaseTable.final_of_form hshift
    exact form_of_final (hfinal.toNat_ofNat.symm ▸ hfinal)
  case h_2 hnone =>
    obtain rfl : d = c := by simpa using hd
    refine ⟨⟨hc, ?_⟩, fun _ => rfl⟩
    rw [lowerChar, if_neg hascii, if_neg hdotted, hnone]

/-! ## Texts -/

/-- What every step of lower-casing does, wherever a capital sigma stands. -/
theorem lowerAfter_cons (before : List Char) (c : Char) (rest : List Char) :
    ∃ form, (form ≠ [] ∧ ∀ d ∈ form, Form c d) ∧
      lowerAfter before (c :: rest) = form ++ lowerAfter (c :: before) rest := by
  by_cases hc : c = 'Σ'
  · subst hc
    refine ⟨if meetsCased before && !meetsCased rest then ['ς'] else ['σ'], ?_, rfl⟩
    split
    · refine ⟨List.cons_ne_nil _ _, fun d hd => ?_⟩
      obtain rfl := List.mem_singleton.mp hd
      exact form_of_final (by decide +kernel)
    · refine ⟨List.cons_ne_nil _ _, fun d hd => ?_⟩
      obtain rfl := List.mem_singleton.mp hd
      exact form_of_final (by decide +kernel)
  · refine ⟨lowerChar c, ⟨?_, fun d => form_of_lowerChar hc⟩, ?_⟩
    · unfold lowerChar
      repeat' split
      all_goals exact List.cons_ne_nil _ _
    · rw [lowerAfter, if_neg hc]

theorem lowerAfter_eq_nil {before s : List Char} (h : lowerAfter before s = []) : s = [] := by
  cases s with
  | nil => rfl
  | cons c rest =>
      obtain ⟨form, ⟨hne, -⟩, hstep⟩ := lowerAfter_cons before c rest
      rw [hstep] at h
      exact absurd (List.append_eq_nil_iff.mp h).1 hne

theorem settled_of_mem_lowerAfter {before s : List Char} {d : Char}
    (h : d ∈ lowerAfter before s) : Settled d := by
  induction s generalizing before with
  | nil => cases h
  | cons c rest ih =>
      obtain ⟨form, ⟨-, hform⟩, hstep⟩ := lowerAfter_cons before c rest
      rw [hstep] at h
      obtain h | h := List.mem_append.mp h
      · exact (hform d h).settled
      · exact ih h

/-- Settled characters stay as they are. -/
theorem lowerAfter_of_settled {before s : List Char} (h : ∀ c ∈ s, Settled c) :
    lowerAfter before s = s := by
  induction s generalizing before with
  | nil => rfl
  | cons c rest ih =>
      obtain ⟨hc, hrest⟩ := List.forall_mem_cons.mp h
      rw [lowerAfter, if_neg hc.noSigma, hc.lower, ih hrest]
      rfl

theorem settled_of_mem_lowered {s : List Char} : ∀ d ∈ lowered s, Settled d :=
  fun _ => settled_of_mem_lowerAfter

/-- The first character of a text in lower case. -/
theorem form_head?_lowered {s : List Char} {d : Char} (h : (lowered s).head? = some d) :
    ∃ c, s.head? = some c ∧ Form c d := by
  cases s with
  | nil => cases h
  | cons c rest =>
      obtain ⟨form, ⟨hne, hform⟩, hstep⟩ := lowerAfter_cons [] c rest
      obtain ⟨e, form, rfl⟩ := List.exists_cons_of_ne_nil hne
      rw [lowered, hstep] at h
      obtain rfl : e = d := by simpa using h
      exact ⟨c, rfl, hform e List.mem_cons_self⟩

/-- The last character of a text in lower case. -/
theorem form_getLast?_lowerAfter {before s : List Char} {d : Char}
    (h : (lowerAfter before s).getLast? = some d) : ∃ c, s.getLast? = some c ∧ Form c d := by
  induction s generalizing before with
  | nil => cases h
  | cons c rest ih =>
      obtain ⟨form, ⟨hne, hform⟩, hstep⟩ := lowerAfter_cons before c rest
      rw [hstep, List.getLast?_append, Option.or_eq_some_iff] at h
      obtain h | ⟨hnone, h⟩ := h
      · obtain ⟨e, he, hed⟩ := ih h
        exact ⟨e, by rw [List.getLast?_cons, he]; rfl, hed⟩
      · obtain rfl := lowerAfter_eq_nil (List.getLast?_eq_none_iff.mp hnone)
        exact ⟨c, rfl, hform d (List.mem_of_getLast? h)⟩

/-- A text without blanks at its ends has none there in lower case. -/
theorem unpadded_lowered {s : List Char} (h : Unpadded s) : Unpadded (lowered s) := by
  constructor
  · intro d hd
    obtain ⟨c, hc, hform⟩ := form_head?_lowered hd
    by_contra hblank
    rw [hform.mark (.inl (by simpa using hblank))] at hblank
    exact hblank (h.head c hc)
  · intro d hd
    obtain ⟨c, hc, hform⟩ := form_getLast?_lowerAfter hd
    by_contra hblank
    rw [hform.mark (.inl (by simpa using hblank))] at hblank
    exact hblank (h.last c hc)

/-- A colon in front is there in lower case if and only if it was there before. -/
theorem head?_lowered_eq_colon_iff {s : List Char} :
    (lowered s).head? = some ':' ↔ s.head? = some ':' := by
  constructor
  · intro h
    obtain ⟨c, hc, hform⟩ := form_head?_lowered h
    rw [hc, hform.mark (.inr rfl)]
  · intro h
    obtain ⟨rest, rfl⟩ := List.head?_eq_some_iff.mp h
    rfl

end LifecycleGuard.Text
