import LifecycleGuard.Proofs.Audit.Paging
import LifecycleGuard.Proofs.Json.Printer

/-!
# Rows on the console

The console shows each entry that is saved to it as its log line, with a line end behind it.  A log
line shows texts that the host chose, and it shows them as they are, but for the double quotes of a
message.  So what a person sees as the rows of the console need not be the log lines.

**Breaks.**  A log line breaks as often as the texts in it do (`breaks_logLine`): what an entry adds
around them never breaks a line, whatever the time and the version are.

**Rows.**  What was saved to the console adds the rows of its log lines, in order and whole
(`rows_saveAll`).  An entry is one row if none of its texts breaks; otherwise it is one row more for
each break, and what stands between two breaks is a row of its own, which can be any row
(`mem_rows_forging`).

The written form does not have this weakness: it escapes its strings, so a log in a file has one
line for each entry (`Json.visible_chars`).
-/

namespace LifecycleGuard

/-! ## Texts that break -/

namespace Text

/-- Whether a new row begins behind a character. -/
def isBreak (c : Char) : Bool := c = '\n' || c = '\r'

/-- How often a text breaks. -/
def breaks (s : String) : Nat := s.toList.countP isBreak

/-- How often some texts break together. -/
def breaksAmong (ts : List String) : Nat := (ts.flatMap String.toList).countP isBreak

/-- The rows of a text. -/
def rows (s : List Char) : List (List Char) := s.splitOnP isBreak

theorem breaks_append (s t : String) : breaks (s ++ t) = breaks s + breaks t := by
  simp [breaks, String.toList_append]

theorem breaks_eq_zero {s : String} : breaks s = 0 ↔ ∀ c ∈ s.toList, isBreak c = false := by
  simp [breaks, List.countP_eq_zero]

theorem breaks_of_visible {s : String} (h : Json.Visible s.toList) : breaks s = 0 := by
  rw [breaks_eq_zero]
  intro c hc
  have hc := h c hc
  simp only [isBreak, Bool.or_eq_false_iff, decide_eq_false_iff_not]
  constructor <;> rintro rfl <;> revert hc <;> decide

theorem breaksAmong_nil : breaksAmong [] = 0 := rfl

theorem breaksAmong_cons (t : String) (ts : List String) :
    breaksAmong (t :: ts) = breaks t + breaksAmong ts := by
  simp [breaksAmong, breaks]

theorem breaksAmong_append (ts us : List String) :
    breaksAmong (ts ++ us) = breaksAmong ts + breaksAmong us := by
  simp [breaksAmong]

theorem breaksAmong_eq_zero {ts : List String} : breaksAmong ts = 0 ↔ ∀ t ∈ ts, breaks t = 0 := by
  induction ts with
  | nil => simp [breaksAmong_nil]
  | cons t ts ih => rw [breaksAmong_cons, Nat.add_eq_zero_iff, ih, List.forall_mem_cons]

theorem breaks_intercalate (sep : String) (hsep : breaks sep = 0) (ts : List String) :
    breaks (sep.intercalate ts) = breaksAmong ts := by
  induction ts with
  | nil => rfl
  | cons t ts ih =>
    rw [breaksAmong_cons, ← ih]
    cases ts with
    | nil => simp [breaks]
    | cons u ts =>
      simp only [breaks, String.toList_intercalate, List.map_cons, List.intercalate_cons_cons,
        List.countP_append] at hsep ⊢
      omega

theorem infix_intercalate (sep : String) {ts : List String} {t : String} (h : t ∈ ts) :
    t.toList <:+: (sep.intercalate ts).toList := by
  rw [String.toList_intercalate]
  induction ts with
  | nil => cases h
  | cons u ts ih =>
    cases ts with
    | nil => simp_all
    | cons v ts =>
      rw [List.map_cons, List.map_cons, List.intercalate_cons_cons]
      obtain rfl | hrest := List.mem_cons.mp h
      · rw [List.append_assoc]
        exact (List.prefix_append ..).isInfix
      · exact (ih hrest).trans (List.suffix_append ..).isInfix

theorem length_rows (s : List Char) : (rows s).length = 1 + s.countP isBreak := by
  induction s with
  | nil => rfl
  | cons c s ih =>
    rw [rows, List.splitOnP_cons_eq_if_modifyHead, List.countP_cons]
    rw [rows] at ih
    split
    · simp [ih, Nat.add_assoc]
    · simp [ih]

theorem rows_ne_nil (s : List Char) : rows s ≠ [] := List.splitOnP_ne_nil _ s

theorem rows_append_cons {c : Char} (h : isBreak c = true) (s t : List Char) :
    rows (s ++ c :: t) = rows s ++ rows t :=
  List.splitOnP_append_cons s t h

theorem rows_eq_singleton {s : List Char} (h : ∀ c ∈ s, isBreak c = false) : rows s = [s] :=
  List.splitOnP_eq_singleton h

/-- What stands between two breaks is a row. -/
theorem mem_rows_of_infix {s row : List Char} {c d : Char} (hc : isBreak c = true)
    (hd : isBreak d = true) (hrow : ∀ x ∈ row, isBreak x = false) (h : c :: row ++ [d] <:+: s) :
    row ∈ rows s := by
  obtain ⟨front, rest, rfl⟩ := h
  have hwhole : rows (front ++ (c :: row ++ [d]) ++ rest) = rows front ++ (row :: rows rest) :=
    calc rows (front ++ (c :: row ++ [d]) ++ rest)
      _ = rows (front ++ c :: (row ++ d :: rest)) := by simp
      _ = rows front ++ rows (row ++ d :: rest) := rows_append_cons hc ..
      _ = rows front ++ (rows row ++ rows rest) := by rw [rows_append_cons hd]
      _ = rows front ++ (row :: rows rest) := by rw [rows_eq_singleton hrow]; rfl
  rw [hwhole]
  simp

end Text

open Text (isBreak breaks breaksAmong)

/-! ## Log lines -/

theorem Rfc3339.visible_logText (t : Instant) : Json.Visible (Rfc3339.logText t).toList := by
  have hpadded : ∀ k n, Json.Visible (Text.padded k n) := fun _ _ =>
    Json.visible_digits fun _ => Text.isDigit_of_mem_padded
  have hyear : Json.Visible (yearChars t.date.year) := by
    rw [yearChars]
    split
    · exact hpadded _ _
    · refine Json.visible_cons.mpr ⟨by split <;> decide, ?_⟩
      split
      · exact hpadded _ _
      · exact Json.visible_toDigits _
  rw [logText, String.toList_ofList, secondChars]
  simp only [Json.visible_append, Json.visible_cons, Json.visible_nil, hyear, hpadded]
  decide

namespace AuditEntry

/-- The names of the attributes that changed, as far as the entry says. -/
def changedNames (e : AuditEntry) : List String := (e.changes.map SortedMap.keys).getD []

/-- The texts that an entry shows as they are. -/
def names (e : AuditEntry) : List String :=
  [e.subjectType, e.subjectId, e.actorType, e.actorId] ++ e.changedNames

/-- The texts of an entry that its log line shows. -/
def texts (e : AuditEntry) : List String := e.names ++ e.message.toList

/-- A message between double quotes in a log line. -/
def requoted (message : String) : String := message.map fun c => if c = Json.quote then '\'' else c

/-- The texts of an entry, as its log line shows them. -/
def shownTexts (e : AuditEntry) : List String := e.names ++ (e.message.map requoted).toList

/-- The rows of the log line. -/
def rows (e : AuditEntry) : List (List Char) := Text.rows e.logLine.toList

theorem breaks_requoted (message : String) : breaks (requoted message) = breaks message := by
  rw [requoted, breaks, breaks, String.toList_map, List.countP_map]
  congr 1
  funext c
  by_cases h : c = Json.quote
  · subst h
    rfl
  · simp [h]

/-- Behind the truth value a log line breaks where a name or the message does. -/
theorem breaks_remarks (e : AuditEntry) :
    breaks e.remarks = breaksAmong (e.changedNames ++ e.message.toList) := by
  have hversion : ∀ v : Int64, breaks (String.ofList (Json.intChars v.toInt)) = 0 := fun v =>
    Text.breaks_of_visible (by rw [String.toList_ofList]; exact Json.visible_intChars _)
  have hnames : ∀ c : ChangeSet, breaks (",".intercalate c.keys) = breaksAmong c.keys :=
    fun c => Text.breaks_intercalate "," rfl c.keys
  have hmessage : ∀ m : String,
      breaks (m.map fun c => if c = Json.quote then '\'' else c) = breaks m := breaks_requoted
  have hplain : breaks "" = 0 ∧ breaks " version=" = 0 ∧ breaks " changed_fields=[" = 0 ∧
      breaks "]" = 0 ∧ breaks " message=\"" = 0 ∧ breaks "\"" = 0 := by decide
  obtain ⟨h1, h2, h3, h4, h5, h6⟩ := hplain
  rw [remarks, Text.breaks_append, Text.breaks_append, changedNames, Text.breaksAmong_append]
  cases e.subjectVersion <;> cases e.changes <;> cases e.message <;>
    simp [Text.breaks_append, Text.breaksAmong_cons, Text.breaksAmong_nil, *]

/-- A log line breaks where a text in it does, and nowhere else. -/
theorem breaks_logLine (e : AuditEntry) : breaks e.logLine = breaksAmong e.texts := by
  have htime : breaks (Rfc3339.logText e.createdAt) = 0 :=
    Text.breaks_of_visible (Rfc3339.visible_logText _)
  have haction : breaks e.action.capitals = 0 := by cases e.action <;> decide
  have hflag : breaks (flagText e.success) = 0 := by cases e.success <;> decide
  have hplain : breaks "[" = 0 ∧ breaks "] " = 0 ∧ breaks " subject=" = 0 ∧ breaks ":" = 0 ∧
      breaks " actor=" = 0 ∧ breaks " success=" = 0 := by decide
  obtain ⟨h1, h2, h3, h4, h5, h6⟩ := hplain
  rw [texts, names, List.append_assoc, Text.breaksAmong_append, ← breaks_remarks]
  simp only [logLine, logBody, Text.breaks_append, Text.breaksAmong_cons, Text.breaksAmong_nil, h1,
    h2, h3, h4, h5, h6, htime, haction, hflag]
  omega

theorem infix_remarks {e : AuditEntry} {t : String}
    (h : t ∈ e.changedNames ++ (e.message.map requoted).toList) :
    t.toList <:+: e.remarks.toList := by
  rw [remarks, String.toList_append, String.toList_append]
  obtain hname | hmessage := List.mem_append.mp h
  · cases hchanges : e.changes with
    | none => simp [changedNames, hchanges] at hname
    | some c =>
      have hkey : t ∈ c.keys := by simpa [changedNames, hchanges] using hname
      have hkeys := (Text.infix_intercalate "," hkey).trans
        (List.infix_append " changed_fields=[".toList _ "]".toList)
      refine .trans ?_ (List.infix_append _ _ _)
      simpa using hkeys
  · cases hm : e.message with
    | none => simp [hm] at hmessage
    | some m =>
      obtain rfl : t = requoted m := by simpa [hm] using hmessage
      have hquoted := List.infix_append " message=\"".toList (requoted m).toList "\"".toList
      refine .trans ?_ (List.suffix_append _ _).isInfix
      simpa [requoted] using hquoted

/-- The texts stand in the log line as they are shown. -/
theorem infix_logLine {e : AuditEntry} {t : String} (h : t ∈ e.shownTexts) :
    t.toList <:+: e.logLine.toList := by
  have hline : e.logLine.toList = (["[", Rfc3339.logText e.createdAt, "] ", e.action.capitals,
      " subject=", e.subjectType, ":", e.subjectId, " actor=", e.actorType, ":", e.actorId,
      " success=", flagText e.success, e.remarks].map String.toList).flatten := by
    simp [logLine, logBody]
  rw [hline]
  rw [shownTexts, names, List.append_assoc] at h
  obtain hname | hremark := List.mem_append.mp h
  · refine List.infix_of_mem_flatten (List.mem_map_of_mem ?_)
    simp only [List.mem_cons, List.not_mem_nil, or_false] at hname
    obtain rfl | rfl | rfl | rfl := hname <;> simp
  · exact (infix_remarks hremark).trans (List.infix_of_mem_flatten (by simp))

/-! ## Rows of log lines -/

/-- A log line has a row more for each break of a text in it. -/
theorem length_rows (e : AuditEntry) : e.rows.length = 1 + breaksAmong e.texts := by
  rw [rows, Text.length_rows, ← breaks_logLine]
  rfl

/-- Whether no text that the log line shows breaks. -/
def Unbroken (e : AuditEntry) : Prop := ∀ t ∈ e.texts, breaks t = 0

theorem unbroken_iff (e : AuditEntry) : e.Unbroken ↔ breaksAmong e.texts = 0 :=
  Text.breaksAmong_eq_zero.symm

theorem unbroken_iff_logLine (e : AuditEntry) :
    e.Unbroken ↔ ∀ c ∈ e.logLine.toList, isBreak c = false := by
  rw [unbroken_iff, ← breaks_logLine, Text.breaks_eq_zero]

theorem Unbroken.rows {e : AuditEntry} (h : e.Unbroken) : e.rows = [e.logLine.toList] :=
  Text.rows_eq_singleton (e.unbroken_iff_logLine.mp h)

/-- What stands between two breaks of a text is a row of the log line. -/
theorem mem_rows_of_infix {e : AuditEntry} {t : String} (ht : t ∈ e.shownTexts)
    {row : List Char} {c d : Char} (hc : isBreak c = true) (hd : isBreak d = true)
    (hrow : ∀ x ∈ row, isBreak x = false) (h : c :: row ++ [d] <:+: t.toList) : row ∈ e.rows :=
  Text.mem_rows_of_infix hc hd hrow (h.trans (infix_logLine ht))

/-- The entry with a row behind the identity of the entity. -/
def forging (e : AuditEntry) (row : String) : AuditEntry :=
  { e with subjectId := e.subjectId ++ "\n" ++ row ++ "\n" }

theorem mem_rows_forging (e : AuditEntry) {row : String} (h : breaks row = 0) :
    row.toList ∈ (e.forging row).rows := by
  have hid : (e.forging row).subjectId ∈ (e.forging row).shownTexts := by
    simp [shownTexts, names]
  refine mem_rows_of_infix hid (c := '\n') (d := '\n') rfl rfl (Text.breaks_eq_zero.mp h) ?_
  exact ⟨e.subjectId.toList, [], by simp [forging]⟩

/-- A row in the identity does not make an entry invalid. -/
theorem missingField?_forging {e : AuditEntry} (h : e.missingField? = none) (row : String) :
    (e.forging row).missingField? = none := by
  have hcomplete : ∀ e : AuditEntry, e.missingField? = none ↔
      ∀ field ∈ e.required, Text.isBlankText field.2 = false := by
    simp [missingField?]
  rw [hcomplete] at h ⊢
  have hid : Text.isBlankText (e.forging row).subjectId = false := by
    have hold := h ("subject_id", e.subjectId) (.head _)
    simp only [Text.isBlankText] at hold
    simp [Text.isBlankText, forging, String.toList_append, List.all_append, hold]
  intro field hfield
  obtain rfl | hother := List.mem_cons.mp hfield
  · exact hid
  · exact h field (.tail _ hother)

/-- Entries show one row each, and one more for each break of a text. -/
theorem length_flatMap_rows (es : List AuditEntry) :
    (es.flatMap rows).length = es.length + breaksAmong (es.flatMap texts) := by
  induction es with
  | nil => rfl
  | cons e es ih =>
    rw [List.flatMap_cons, List.flatMap_cons, List.length_append, ih, length_rows, List.length_cons,
      Text.breaksAmong_append]
    omega

/-- The rows of some entries are their log lines exactly if no text in them breaks. -/
theorem flatMap_rows_eq_iff (es : List AuditEntry) :
    es.flatMap rows = es.map (fun e => e.logLine.toList) ↔ ∀ e ∈ es, e.Unbroken := by
  constructor
  · intro h
    have hlength := congrArg List.length h
    rw [length_flatMap_rows, List.length_map] at hlength
    have hnone : breaksAmong (es.flatMap texts) = 0 := by omega
    rw [Text.breaksAmong_eq_zero, List.forall_mem_flatMap] at hnone
    exact hnone
  · intro h
    rw [List.flatMap_def, List.map_congr_left fun e he => (h e he).rows, ← List.flatMap_def]
    exact List.map_eq_flatMap.symm

end AuditEntry

/-! ## The console -/

namespace Media

/-- What the console shows. -/
def shown (m : Media) : List Char := m.printed.flatMap fun l => l.toList ++ ['\n']

/-- The rows of the console that are complete. -/
def rows (m : Media) : List (List Char) := (Text.rows m.shown).dropLast

theorem rows_eq (m : Media) : m.rows = m.printed.flatMap fun l => Text.rows l.toList := by
  rw [rows, shown]
  induction m.printed with
  | nil => rfl
  | cons l ls ih =>
    have hline : Text.rows ((l :: ls).flatMap fun l => l.toList ++ ['\n']) =
        Text.rows l.toList ++ Text.rows (ls.flatMap fun l => l.toList ++ ['\n']) := by
      rw [← Text.rows_append_cons (c := '\n') rfl]
      simp
    rw [hline, List.dropLast_append_of_ne_nil (Text.rows_ne_nil _), ih, List.flatMap_cons]

end Media

namespace Store

/-- Only what is saved to the console is printed. -/
theorem printed_save (x : Store × AuditEntry) (m : Media) :
    (x.1.save x.2 m).2.printed = m.printed ++ (savedTo .console [x]).map AuditEntry.logLine := by
  obtain ⟨s, e⟩ := x
  cases s with
  | memory number => simp [save, savedTo]
  | file path => simp [save, savedTo]
  | console => simp [save, savedTo]
  | null => simp [save, savedTo]
  | limited number capacity refusal text =>
    rw [save]
    split <;> simp [savedTo]

theorem printed_saveAll (saves : List (Store × AuditEntry)) (m : Media) :
    (saveAll saves m).printed = m.printed ++ (savedTo .console saves).map AuditEntry.logLine :=
  grows_saveAll Media.printed AuditEntry.logLine printed_save saves m

theorem shown_saveAll (saves : List (Store × AuditEntry)) (m : Media) :
    (saveAll saves m).shown =
      m.shown ++ (savedTo .console saves).flatMap fun e => e.logLine.toList ++ ['\n'] := by
  rw [Media.shown, Media.shown, printed_saveAll, List.flatMap_append, List.flatMap_map]

/-- What is saved to the console adds the rows of its log lines, and nothing else does. -/
theorem rows_saveAll (saves : List (Store × AuditEntry)) (m : Media) :
    (saveAll saves m).rows = m.rows ++ (savedTo .console saves).flatMap AuditEntry.rows := by
  rw [Media.rows_eq, Media.rows_eq, printed_saveAll, List.flatMap_append, List.flatMap_map]
  rfl

/-- **The console shows the rows of what was saved to it.**  A log line is free of line feeds and
carriage returns exactly if the texts in it are; otherwise it has as many more rows as there are
breaks in them, and what stands between two breaks of a text is a row of its own.  Any row at all
can stand there, also in a valid entry.  The console goes on with the rows of what is saved to it,
which are the log lines of the entries, one for each, exactly if no text of any of them breaks. -/
theorem printed_rows (e : AuditEntry) (saves : List (Store × AuditEntry)) (m : Media) :
    ((∀ c ∈ e.logLine.toList, isBreak c = false) ↔ e.Unbroken) ∧
    e.rows.length = 1 + breaksAmong e.texts ∧
    (∀ t ∈ e.shownTexts, ∀ (c d : Char) (row : List Char),
      isBreak c = true → isBreak d = true → (∀ x ∈ row, isBreak x = false) →
      c :: row ++ [d] <:+: t.toList → row ∈ e.rows) ∧
    (∀ row, breaks row = 0 → row.toList ∈ (e.forging row).rows ∧
      (e.missingField? = none → (e.forging row).missingField? = none)) ∧
    (saveAll saves m).rows = m.rows ++ (savedTo .console saves).flatMap AuditEntry.rows ∧
    ((saveAll saves m).rows =
        m.rows ++ (savedTo .console saves).map (fun e => e.logLine.toList) ↔
      ∀ e ∈ savedTo .console saves, e.Unbroken) := by
  refine ⟨e.unbroken_iff_logLine.symm, e.length_rows, ?_, fun row hrow => ?_,
    rows_saveAll saves m, ?_⟩
  · exact fun t ht c d row hc hd hrow h => AuditEntry.mem_rows_of_infix ht hc hd hrow h
  · exact ⟨e.mem_rows_forging hrow, fun h => AuditEntry.missingField?_forging h row⟩
  · rw [rows_saveAll, List.append_cancel_left_eq, AuditEntry.flatMap_rows_eq_iff]

/-- An update of a note whose identity has the end of a log line and the beginning of another one
in it. -/
def twofold : AuditEntry :=
  noteEntry ("1 actor=anonymous:0 success=true\n" ++
    "[1970-01-01T00:00:00.000Z] UPDATE subject=note:2") .update

/-- One valid entry can look like two, of which none was saved. -/
theorem twofold_rows :
    twofold.missingField? = none ∧ '\n' ∈ twofold.logLine.toList ∧
      (saveAll [(.console, twofold)] .blank).rows.length = 2 ∧
      (saveAll [(.console, twofold)] .blank).shown =
        (saveAll [(.console, noteEntry "1" .update), (.console, noteEntry "2" .update)]
          .blank).shown := by
  have hline : twofold.logLine = (noteEntry "1" .update).logLine ++
      ("\n" ++ (noteEntry "2" .update).logLine) := by decide +kernel
  have hbreaks : breaksAmong twofold.texts = 1 := by decide +kernel
  have hone : ∀ e, savedTo .console [(.console, e)] = [e] := fun e => rfl
  have htwo : ∀ e e', savedTo .console [(.console, e), (.console, e')] = [e, e'] := fun e e' => rfl
  refine ⟨by decide +kernel, ?_, ?_, ?_⟩
  · simp [hline]
  · rw [rows_saveAll, hone, List.flatMap_singleton, List.length_append, AuditEntry.length_rows,
      hbreaks]
    rfl
  · rw [shown_saveAll, shown_saveAll, hone, htwo, List.flatMap_singleton, List.flatMap_cons,
      List.flatMap_singleton, hline]
    simp

end Store

end LifecycleGuard
