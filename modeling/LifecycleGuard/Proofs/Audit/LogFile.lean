import LifecycleGuard.Audit.Store
import LifecycleGuard.Proofs.Audit.Codec
import LifecycleGuard.Proofs.Files.Tree
import LifecycleGuard.Proofs.Text.Utf8

/-!
# Lines of a log

A log is read line by line, and an entry is written as one line.  The two meet in three facts.

* A written entry has no line end in it, nor a carriage return at its end, so the line that is cut
  out of the file is what was written (`lines_append_line`).
* That line is not blank and decodes to the entry, if the entry decodes at all
  (`entryOfLine_entry`).
* A file is read as its part up to the last line end and then what stands behind it
  (`entries_parts`): `body` and `tail`.  What is appended to a file only touches its tail.

A file that holds nothing but entries has no tail, and is read as these entries (`entries_written`).
-/

namespace LifecycleGuard.LogFile

/-! ## Cutting a file into lines -/

/-- What stands behind the last line end of a file. -/
def tail (content : List UInt8) : List UInt8 :=
  (content.reverse.takeWhile fun b => b ≠ newline).reverse

/-- A file up to its last line end. -/
def body (content : List UInt8) : List UInt8 :=
  (content.reverse.dropWhile fun b => b ≠ newline).reverse

theorem body_append_tail (content : List UInt8) : body content ++ tail content = content := by
  rw [body, tail, ← List.reverse_append, List.takeWhile_append_dropWhile, List.reverse_reverse]

theorem newline_not_mem_tail (content : List UInt8) : newline ∉ tail content := by
  intro h
  have hall := List.all_eq_true.mp
    (List.all_takeWhile (p := fun b => decide (b ≠ newline)) (l := content.reverse))
  have := hall newline (List.mem_reverse.mp h)
  simp at this

/-- The part up to the last line end is empty or ends with a line end. -/
theorem body_ended (content : List UInt8) :
    body content = [] ∨ ∃ rest, body content = rest ++ [newline] := by
  unfold body
  cases h : content.reverse.dropWhile fun b => b ≠ newline with
  | nil => exact .inl rfl
  | cons b rest =>
    have hb : b = newline := by
      have := List.head?_dropWhile_not (fun b : UInt8 => decide (b ≠ newline)) content.reverse
      rw [h] at this
      simpa using this
    exact .inr ⟨rest.reverse, by rw [List.reverse_cons, hb]⟩

theorem lines_line {l : List UInt8} (h : newline ∉ l) (rest acc : List UInt8) :
    lines (l ++ newline :: rest) acc = chomp (acc.reverse ++ l) :: lines rest [] := by
  induction l generalizing acc with
  | nil => simp [lines]
  | cons b l ih =>
    rw [List.mem_cons, not_or] at h
    have hb : b ≠ newline := fun heq => h.1 heq.symm
    rw [List.cons_append, lines, if_neg hb, ih h.2]
    simp

theorem lines_tail {l acc : List UInt8} (h : newline ∉ l) (hne : acc.reverse ++ l ≠ []) :
    lines l acc = [acc.reverse ++ l] := by
  induction l generalizing acc with
  | nil =>
    cases acc with
    | nil => exact absurd rfl hne
    | cons b acc => simp [lines]
  | cons b l ih =>
    rw [List.mem_cons, not_or] at h
    have hb : b ≠ newline := fun heq => h.1 heq.symm
    rw [lines, if_neg hb, ih h.2 (by simp)]
    simp

theorem lines_ended {rest more acc : List UInt8} :
    lines (rest ++ [newline] ++ more) acc = lines (rest ++ [newline]) acc ++ lines more [] := by
  induction rest generalizing acc with
  | nil => simp [lines]
  | cons b rest ih =>
    simp only [List.cons_append, lines]
    split
    · rw [ih, List.cons_append]
    · exact ih

/-- What stands behind the last line end is cut on its own. -/
theorem lines_body_append (content more : List UInt8) :
    lines (body content ++ more) [] = lines (body content) [] ++ lines more [] := by
  obtain h | ⟨rest, h⟩ := body_ended content
  · rw [h]
    rfl
  · rw [h]
    exact lines_ended

/-! ## Reading lines -/

/-- Lines are read one after the other. -/
theorem entriesOfLines_append (ls more : List (List UInt8)) :
    entriesOfLines (ls ++ more) = do
      let front ← entriesOfLines ls
      let back ← entriesOfLines more
      return front ++ back := by
  induction ls with
  | nil => exact (bind_pure _).symm
  | cons l ls ih =>
    rw [List.cons_append, entriesOfLines, entriesOfLines, ih]
    cases entryOfLine l with
    | error e => rfl
    | ok e =>
      cases entriesOfLines ls with
      | error e' => rfl
      | ok front =>
        cases entriesOfLines more with
        | error e' => rfl
        | ok back => exact congrArg Except.ok (List.append_assoc _ _ _).symm

/-- A file is read as its part up to the last line end and then what is behind it. -/
theorem entries_parts (content more : List UInt8) :
    entries (body content ++ more) = do
      let front ← entriesOfLines (lines (body content) [])
      let back ← entriesOfLines (lines more [])
      return front ++ back := by
  rw [entries, lines_body_append, entriesOfLines_append]

theorem entriesOfLines_singleton (l : List UInt8) :
    entriesOfLines [l] = Option.toList <$> entryOfLine l := by
  rw [entriesOfLines, entriesOfLines]
  cases entryOfLine l with
  | error e => rfl
  | ok e => exact congrArg Except.ok (List.append_nil _)

theorem entryOfLine_utf8 {cs : List Char} (h : cs.all Text.isBlank = false) :
    entryOfLine (Text.utf8 cs) =
      match Json.decode AuditEntry.read (String.ofList cs) with
      | .ok e => .ok (some e)
      | .error e => .error (.unreadable e) := by
  have hblank : ¬ cs.all Text.isBlank = true := by
    rw [h]
    exact Bool.false_ne_true
  rw [entryOfLine, Text.ofUtf8?_utf8]
  exact if_neg hblank

/-! ## The line of an entry -/

variable (e : AuditEntry)

theorem newline_not_mem_entry : newline ∉ Text.utf8 e.toJson.chars := by
  intro h
  obtain ⟨c, hc, hnumber⟩ := Text.mem_of_mem_utf8 h (by decide)
  exact e.not_mem_chars (by rw [hnumber]; decide) hc

/-- The bytes of an entry end with those of a brace. -/
theorem getLast?_entry (front : List UInt8) :
    (front ++ Text.utf8 e.toJson.chars).getLast? = some 0x7D := by
  rw [e.chars_eq_cons, ← List.cons_append, Text.utf8_append, ← List.append_assoc,
    List.getLast?_append]
  rfl

theorem chomp_entry (front : List UInt8) :
    chomp (front ++ Text.utf8 e.toJson.chars) = front ++ Text.utf8 e.toJson.chars := by
  rw [chomp, getLast?_entry, if_neg (by decide)]

/-- The line of an entry is cut out of a file together with what stands before it on the line. -/
theorem lines_append_line {front : List UInt8} (h : newline ∉ front) (more : List UInt8) :
    lines (front ++ line e ++ more) [] = (front ++ Text.utf8 e.toJson.chars) :: lines more [] := by
  have hline : newline ∉ front ++ Text.utf8 e.toJson.chars := by
    rw [List.mem_append, not_or]
    exact ⟨h, newline_not_mem_entry e⟩
  have hcut := lines_line hline more []
  rw [List.reverse_nil, List.nil_append, chomp_entry] at hcut
  rw [line, ← hcut]
  simp

variable {e}

/-- The line of an entry that decodes is read as that entry. -/
theorem entryOfLine_entry (h : Json.decode AuditEntry.read e.toJson.render = .ok e) :
    entryOfLine (Text.utf8 e.toJson.chars) = .ok (some e) := by
  rw [Json.render] at h
  rw [entryOfLine_utf8 e.not_blank_chars, h]

/-- A file of nothing but entries is read as these entries. -/
theorem entries_written {es : List AuditEntry}
    (h : ∀ e ∈ es, Json.decode AuditEntry.read e.toJson.render = .ok e) :
    entries (es.flatMap line) = .ok es := by
  unfold entries
  induction es with
  | nil => rfl
  | cons e es ih =>
    have hes := ih fun e' he' => h e' (List.mem_cons_of_mem _ he')
    have hcut := lines_append_line e (List.not_mem_nil (a := newline)) (es.flatMap line)
    rw [List.nil_append, List.nil_append] at hcut
    rw [List.flatMap_cons, hcut, entriesOfLines, entryOfLine_entry (h e List.mem_cons_self), hes]
    rfl

end LifecycleGuard.LogFile

/-! ## Stores on files -/

namespace LifecycleGuard.Store

variable {m : Media} {path : String} {content : List UInt8}

theorem everything_file (h : m.files.read path = .ok content) :
    (Store.file path).everything m = LogFile.entries content := by
  rw [everything, LogFile.readAll, h]
  rfl

/-- A save to a file that is there goes through unless something stops it. -/
theorem save_file (h : m.files.Holds path content) (e : AuditEntry) (hfault : m.fault? = none) :
    ∃ m', (Store.file path).save e m = (.ok (), m') ∧
      m'.files.Holds path (content ++ LogFile.line e) ∧ m'.faults = m.faults.tail := by
  obtain ⟨files, hwrite, hholds⟩ := FileTree.write_of_append h.append (LogFile.line e) none
  refine ⟨{ m with files, faults := m.faults.tail }, ?_, hholds, rfl⟩
  rw [save, hfault, hwrite]
  rfl

/-- Nothing has stopped a save to a file that is there and went through. -/
theorem fault?_of_save_file (h : m.files.Holds path content) {e : AuditEntry}
    (hsave : ((Store.file path).save e m).1 = .ok ()) : m.fault? = none := by
  obtain ⟨files, hwrite, -⟩ := FileTree.write_of_append h.append (LogFile.line e) m.fault?
  rw [save, hwrite] at hsave
  cases hfault : m.fault? with
  | none => rfl
  | some f =>
    rw [hfault] at hsave
    cases hsave

/-- A file that is opened once more is left as it is. -/
theorem openFile_of_holds (h : m.files.Holds path content) :
    openFile path m = (.ok (.file path), m) := by
  have hcreate : m.files.create path = .ok m.files := h.append_nil
  rw [openFile, hcreate]

end LifecycleGuard.Store

namespace LifecycleGuard.Media

/-- Nothing stops the saves to files that are still to come. -/
def Faultless (m : Media) : Prop := ∀ f ∈ m.faults, f = none

namespace Faultless

variable {m : Media}

theorem fault? (h : m.Faultless) : m.fault? = none := by
  unfold Media.fault?
  cases hfaults : m.faults with
  | nil => rfl
  | cons f rest => exact h f (hfaults ▸ List.mem_cons_self)

theorem tail (h : m.Faultless) : ∀ f ∈ m.faults.tail, f = none :=
  fun f hf => h f (List.mem_of_mem_tail hf)

end Faultless

/-- Media with nothing on them but one log. -/
def withLog (content : List UInt8) : Media :=
  { blank with files := ⟨SortedMap.empty.insert "log" (.file content)⟩ }

theorem read_withLog (content : List UInt8) :
    (withLog content).files.read "log" = .ok content := by
  rw [FileTree.read, FileTree.resolve_log]
  rfl

end LifecycleGuard.Media
