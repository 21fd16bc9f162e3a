import LifecycleGuard.Proofs.Audit.LogFile
import LifecycleGuard.Proofs.Json.Thorough

/-!
# Saving to a log that is already there

A log that is read without a fault need not have been written by the store that appends to it.  What
decides whether it can still be read after an entry was appended is what stands behind its last line
end.

**At the start of a line** (`AtLineStart`), behind nothing but space, the entry gets a line of its
own, and the log is read as before with the entry behind.

**Anywhere else** the entry goes on with a line that has begun.  The reader takes a last line that
has no line end, so there may be an entry on it, or a blank that is no space in a document.  In the
first case the line now holds two documents, and in the second it begins with something that begins
no document.  Both are refused (`decode_begun`), and with the line the whole log.
-/

namespace LifecycleGuard.LogFile

open Text (utf8)

/-- Whether some bytes are nothing but space. -/
def Spaces (bytes : List UInt8) : Prop :=
  ∀ b ∈ bytes, b = 0x20 ∨ b = 0x09 ∨ b = 0x0D ∨ b = newline

/-- Whether what is appended to a file begins a line: nothing but space is behind the last line
end. -/
def AtLineStart (content : List UInt8) : Prop := Spaces (tail content)

instance (bytes : List UInt8) : Decidable (Spaces bytes) :=
  inferInstanceAs (Decidable (∀ b ∈ bytes, _))

instance (content : List UInt8) : Decidable (AtLineStart content) :=
  inferInstanceAs (Decidable (Spaces (tail content)))

/-! ## Space -/

theorem isSpace_of_toNat {c : Char} {b : UInt8} (h : c.toNat = b.toNat)
    (hb : b = 0x20 ∨ b = 0x09 ∨ b = 0x0D ∨ b = newline) : Json.isSpace c = true := by
  have hc : c = Char.ofNat b.toNat := by rw [← h, Char.ofNat_toNat]
  rcases hb with rfl | rfl | rfl | rfl <;> exact hc ▸ rfl

theorem spaces_utf8 (cs : List Char) : Spaces (utf8 cs) ↔ ∀ c ∈ cs, Json.isSpace c = true := by
  constructor
  · intro h c hc
    obtain ⟨b, hb⟩ := List.exists_mem_of_ne_nil _ (String.utf8EncodeChar_ne_nil (c := c))
    have hspace := h b (List.mem_flatMap.mpr ⟨c, hc, hb⟩)
    have hlow : b.toNat < 128 := by rcases hspace with rfl | rfl | rfl | rfl <;> decide
    exact isSpace_of_toNat (Text.toNat_of_mem_utf8EncodeChar hb hlow) hspace
  · intro h b hb
    obtain ⟨c, hc, hb⟩ := List.mem_flatMap.mp hb
    have hspace := h c hc
    simp only [Json.isSpace, Bool.or_eq_true, decide_eq_true_eq] at hspace
    rcases hspace with ((rfl | rfl) | rfl) | rfl <;> rw [List.mem_singleton.mp hb] <;> decide

theorem isBlank_of_isSpace {c : Char} (h : Json.isSpace c = true) : Text.isBlank c = true := by
  simp only [Json.isSpace, Bool.or_eq_true, decide_eq_true_eq] at h
  rcases h with ((rfl | rfl) | rfl) | rfl <;> rfl

/-! ## The line that is gone on with -/

/-- What can stand on a line that is read without a fault. -/
theorem entryOfLine_eq_ok {l : List UInt8} {x : Option AuditEntry} (h : entryOfLine l = .ok x) :
    ∃ cs, l = utf8 cs ∧ ((cs.all Text.isBlank = true ∧ x = none) ∨
      (cs.all Text.isBlank ≠ true ∧
        ∃ e, Json.decode AuditEntry.read (String.ofList cs) = .ok e ∧ x = some e)) := by
  unfold entryOfLine at h
  cases hcs : Text.ofUtf8? l with
  | none => rw [hcs] at h; cases h
  | some cs =>
    rw [hcs] at h
    refine ⟨cs, Text.utf8_of_ofUtf8? hcs, ?_⟩
    dsimp only at h
    split at h
    next hblank => exact .inl ⟨hblank, (Except.ok.inj h).symm⟩
    next hblank =>
      cases hdecode : Json.decode AuditEntry.read (String.ofList cs) with
      | error e => rw [hdecode] at h; cases h
      | ok e => rw [hdecode] at h; exact .inr ⟨hblank, e, rfl, (Except.ok.inj h).symm⟩

/-- A line of space holds no entry. -/
theorem entryOfLine_spaces {l : List UInt8} {x : Option AuditEntry} (h : entryOfLine l = .ok x)
    (hl : Spaces l) : x = none := by
  obtain ⟨cs, rfl, hcs⟩ := entryOfLine_eq_ok h
  obtain ⟨-, hx⟩ | ⟨hblank, -⟩ := hcs
  · exact hx
  · have hspace := (spaces_utf8 cs).mp hl
    exact absurd (List.all_eq_true.mpr fun c hc => isBlank_of_isSpace (hspace c hc)) hblank

section

variable (e : AuditEntry)

theorem endsNumber_entry : Json.EndsNumber e.toJson.chars := by
  rw [e.chars_eq_cons]
  intro c hc
  cases hc
  decide

theorem skipSpace_entry : Json.skipSpace e.toJson.chars ≠ [] := by
  rw [e.chars_eq_cons]
  exact List.cons_ne_nil _ _

/-- Behind an entry an entry makes the line two documents, and behind a blank that is no space it
makes it none. -/
theorem decode_begun {cs : List Char} (hspaces : ¬ Spaces (utf8 cs))
    (h : cs.all Text.isBlank = true ∨
      ∃ e₁, Json.decode AuditEntry.read (String.ofList cs) = .ok e₁) :
    Json.decode AuditEntry.read (String.ofList (cs ++ e.toJson.chars)) = .error .malformed := by
  obtain hblank | ⟨e₁, he₁⟩ := h
  · cases hskip : Json.skipSpace cs with
    | nil => exact absurd ((spaces_utf8 cs).mpr (List.dropWhile_eq_nil_iff.mp hskip)) hspaces
    | cons c t =>
      have hc : c ∈ cs := (List.dropWhile_suffix _).subset (hskip ▸ List.mem_cons_self)
      have hblank := List.all_eq_true.mp hblank c hc
      exact Json.decode_of_blank (Json.skipSpace_append hskip _) hblank
  · have hdecode := Json.thorough_entry.decode_around he₁ (List.forall_mem_nil _)
      (endsNumber_entry e)
    rw [if_neg (skipSpace_entry e)] at hdecode
    exact hdecode

end

/-- **An entry that goes on with a line is read if there is only space in front of it.** -/
theorem entryOfLine_append {e e' : AuditEntry}
    (he : Json.decode AuditEntry.read e.toJson.render = .ok e') {l : List UInt8}
    {x : Option AuditEntry} (h : entryOfLine l = .ok x) :
    entryOfLine (l ++ utf8 e.toJson.chars) =
      if Spaces l then .ok (some e') else .error (.unreadable .malformed) := by
  obtain ⟨cs, rfl, hcs⟩ := entryOfLine_eq_ok h
  have hblank : (cs ++ e.toJson.chars).all Text.isBlank = false := by
    rw [List.all_append, e.not_blank_chars, Bool.and_false]
  rw [← Text.utf8_append, entryOfLine_utf8 hblank]
  by_cases hspaces : Spaces (utf8 cs)
  · have hdecode := Json.thorough_entry.decode_around he ((spaces_utf8 cs).mp hspaces)
      (u := []) (by simp [Json.EndsNumber])
    rw [List.append_nil] at hdecode
    rw [if_pos hspaces, hdecode]
    rfl
  · have hbegun : cs.all Text.isBlank = true ∨
        ∃ e₁, Json.decode AuditEntry.read (String.ofList cs) = .ok e₁ := by
      obtain ⟨hblank, -⟩ | ⟨-, e₁, he₁, -⟩ := hcs
      · exact .inl hblank
      · exact .inr ⟨e₁, he₁⟩
    rw [if_neg hspaces, decode_begun e hspaces hbegun]

/-! ## A log that is appended to -/

/-- What stands behind the last line end is read as one line. -/
theorem entriesOfLines_tail (content : List UInt8) :
    entriesOfLines (lines (tail content) []) = Option.toList <$> entryOfLine (tail content) := by
  by_cases hnil : tail content = []
  · rw [hnil]
    rfl
  · rw [lines_tail (newline_not_mem_tail content) (by simpa using hnil), List.reverse_nil,
      List.nil_append, entriesOfLines_singleton]

/-- **What becomes of a log that is read without a fault when an entry is appended to it.** -/
theorem entries_append {e e' : AuditEntry}
    (he : Json.decode AuditEntry.read e.toJson.render = .ok e') {content : List UInt8}
    {es : List AuditEntry} (h : entries content = .ok es) :
    entries (content ++ line e) =
      if AtLineStart content then .ok (es ++ [e']) else .error (.unreadable .malformed) := by
  have hparts := entries_parts content (tail content)
  rw [body_append_tail, entriesOfLines_tail, h] at hparts
  obtain ⟨front, hfront, hback⟩ := bind_eq_ok.mp hparts.symm
  obtain ⟨back, htail, hes⟩ := bind_eq_ok.mp hback
  cases hx : entryOfLine (tail content) with
  | error error => rw [hx] at htail; cases htail
  | ok x =>
    have hcut := lines_append_line e (newline_not_mem_tail content) []
    have hsaved := entries_parts content (tail content ++ line e)
    rw [List.append_nil] at hcut
    rw [← List.append_assoc, body_append_tail, hcut, lines, entriesOfLines_singleton, hfront,
      entryOfLine_append he hx] at hsaved
    by_cases hstart : AtLineStart content
    · have hspaces : Spaces (tail content) := hstart
      rw [hx, entryOfLine_spaces hx hspaces] at htail
      cases htail
      cases hes
      rw [hsaved, if_pos hspaces, if_pos hstart, Option.toList_none, List.append_nil]
      rfl
    · have hspaces : ¬ Spaces (tail content) := hstart
      rw [hsaved, if_neg hspaces, if_neg hstart]
      rfl

/-! ## Two logs of one entry -/

theorem tail_ended (rest : List UInt8) : tail (rest ++ [newline]) = [] := by
  simp [tail]

theorem tail_of_not_mem {l : List UInt8} (h : newline ∉ l) : tail l = l := by
  have hall : ∀ b ∈ l.reverse, decide (b ≠ newline) = true := by
    intro b hb
    exact decide_eq_true fun heq => h (heq ▸ List.mem_reverse.mp hb)
  rw [tail, List.takeWhile_eq_self_iff.mpr hall, List.reverse_reverse]

/-- Behind an entry a line begins, so one entry after another can be appended. -/
theorem atLineStart_append_line (content : List UInt8) (e : AuditEntry) :
    AtLineStart (content ++ line e) := by
  unfold AtLineStart
  rw [line, ← List.append_assoc, tail_ended]
  intro b hb
  cases hb

/-- An entry without its line end. -/
theorem not_atLineStart_entry (e : AuditEntry) : ¬ AtLineStart (utf8 e.toJson.chars) := by
  unfold AtLineStart
  rw [tail_of_not_mem (newline_not_mem_entry e)]
  intro h
  have hbrace : (0x7B : UInt8) ∈ utf8 e.toJson.chars := by
    rw [e.chars_eq_cons]
    exact List.mem_cons_self
  exact absurd (h _ hbrace) (by decide)

theorem entries_entry {e : AuditEntry}
    (he : Json.decode AuditEntry.read e.toJson.render = .ok e) :
    entries (utf8 e.toJson.chars) = .ok [e] := by
  have hparts := entriesOfLines_tail (utf8 e.toJson.chars)
  rw [tail_of_not_mem (newline_not_mem_entry e), entryOfLine_entry he] at hparts
  exact hparts

end LifecycleGuard.LogFile

namespace LifecycleGuard.Store

open LogFile (AtLineStart)

theorem apply_all (es : List AuditEntry) : AuditFilter.all.apply es = es := by
  have hselects : AuditFilter.all.selects = fun _ => true := rfl
  rw [AuditFilter.apply, hselects, List.filter_true]
  rfl

theorem query_file {m : Media} {path : String} {content : List UInt8}
    (h : m.files.read path = .ok content) (f : AuditFilter) :
    (Store.file path).query f m = f.apply <$> LogFile.entries content := by
  rw [query, everything_file h]

/-- **Saving to a log that is read without a fault** succeeds unless something stops the write.  At
the start of a line the log then holds the entry behind what it held, with the entry as it reads
back; anywhere else nothing can be read from it any more. -/
theorem save_onto {m : Media} {path : String} {content : List UInt8} {logged : List AuditEntry}
    {e e' : AuditEntry} (hread : m.files.read path = .ok content)
    (hquery : (Store.file path).query .all m = .ok logged)
    (he : Json.decode AuditEntry.read e.toJson.render = .ok e') :
    (((Store.file path).save e m).1 = .ok () ↔ m.fault? = none) ∧
    ∀ m', (Store.file path).save e m = (.ok (), m') →
      (AtLineStart content → (Store.file path).query .all m' = .ok (logged ++ [e'])) ∧
      (¬ AtLineStart content →
        (∀ f, (Store.file path).query f m' = .error (.unreadable .malformed)) ∧
          ∀ id, (Store.file path).get id m' = .error (.unreadable .malformed)) := by
  have hthere := FileTree.holds_of_read hread
  have hentries : LogFile.entries content = .ok logged := by
    rw [query_file hread] at hquery
    cases hes : LogFile.entries content with
    | error error => rw [hes] at hquery; cases hquery
    | ok es =>
      rw [hes] at hquery
      rw [← Except.ok.inj hquery, apply_all]
  have hafter := LogFile.entries_append he hentries
  refine ⟨⟨fault?_of_save_file hthere, fun hfault => ?_⟩, fun m' hsave => ?_⟩
  · obtain ⟨m', hsave, -⟩ := save_file hthere e hfault
    rw [hsave]
  obtain ⟨m'', hsave', hholds, -⟩ :=
    save_file hthere e (fault?_of_save_file hthere (congrArg Prod.fst hsave))
  obtain ⟨-, rfl⟩ := Prod.mk.inj (hsave.symm.trans hsave')
  refine ⟨fun hstart => ?_, fun hstart => ⟨fun f => ?_, fun id => ?_⟩⟩
  · rw [query_file hholds.read, hafter, if_pos hstart]
    exact congrArg Except.ok (apply_all _)
  · rw [query_file hholds.read, hafter, if_neg hstart]
    rfl
  · rw [get, everything_file hholds.read, hafter, if_neg hstart]
    rfl

theorem save_onto_line :
    (Media.withLog (LogFile.line .awkward)).files.read "log" = .ok (LogFile.line .awkward) ∧
      (Store.file "log").query .all (.withLog (LogFile.line .awkward)) = .ok [.awkward] ∧
      Json.decode AuditEntry.read AuditEntry.awkward.toJson.render = .ok .awkward ∧
      ∃ m', (Store.file "log").save .awkward (.withLog (LogFile.line .awkward)) = (.ok (), m') ∧
        (Store.file "log").query .all m' = .ok [.awkward, .awkward] := by
  have hread := Media.read_withLog (LogFile.line .awkward)
  have he := AuditEntry.decode_render (e := .awkward) (by decide)
  have hquery : (Store.file "log").query .all (.withLog (LogFile.line .awkward)) =
      .ok [.awkward] := by
    have hwritten : LogFile.entries ([AuditEntry.awkward].flatMap LogFile.line) = .ok [.awkward] :=
      LogFile.entries_written (by simpa using he)
    rw [List.flatMap_singleton] at hwritten
    rw [query_file hread, hwritten]
    exact congrArg Except.ok (apply_all _)
  obtain ⟨hsaved, honto⟩ := save_onto hread hquery he
  obtain ⟨m', hsave⟩ : ∃ m', (Store.file "log").save .awkward
      (.withLog (LogFile.line .awkward)) = (.ok (), m') := ⟨_, Prod.ext (hsaved.mpr rfl) rfl⟩
  exact ⟨hread, hquery, he, m', hsave, (honto m' hsave).1 (LogFile.atLineStart_append_line [] _)⟩

/-- **An entry without its line end is a log that cannot be appended to.**  The log holds the entry
before the save, the save succeeds, and after it nothing can be read. -/
theorem save_onto_unended :
    (Store.file "log").query .all (.withLog (Text.utf8 AuditEntry.awkward.toJson.chars)) =
        .ok [.awkward] ∧
      Json.decode AuditEntry.read AuditEntry.awkward.toJson.render = .ok .awkward ∧
      ∃ m', (Store.file "log").save .awkward
            (.withLog (Text.utf8 AuditEntry.awkward.toJson.chars)) = (.ok (), m') ∧
        (Store.file "log").query .all m' = .error (.unreadable .malformed) ∧
        (Store.file "log").query .all m' ≠ .ok ([.awkward] ++ [.awkward]) := by
  have hread := Media.read_withLog (Text.utf8 AuditEntry.awkward.toJson.chars)
  have he := AuditEntry.decode_render (e := .awkward) (by decide)
  have hentries := LogFile.entries_entry he
  obtain ⟨m', hsave, hholds, -⟩ := save_file (FileTree.holds_of_read hread) .awkward rfl
  have hafter : (Store.file "log").query .all m' = .error (.unreadable .malformed) := by
    rw [query_file hholds.read, LogFile.entries_append he hentries,
      if_neg (LogFile.not_atLineStart_entry _)]
    rfl
  refine ⟨?_, he, m', hsave, hafter, ?_⟩
  · rw [query_file hread, hentries]
    exact congrArg Except.ok (apply_all _)
  · rw [hafter]
    intro h
    cases h

end LifecycleGuard.Store
