import LifecycleGuard.Audit.Entry
import LifecycleGuard.Proofs.Json.Printer
import LifecycleGuard.Proofs.Json.Record
import LifecycleGuard.Proofs.Json.RoundTrip
import LifecycleGuard.Proofs.Time.Rfc3339
import LifecycleGuard.Proofs.Uuid

/-!
# Entries read back

What an entry is written as is read as the same entry, in three steps.

* The record is a list of members, and each group of them fills its own fields of a draft and
  leaves the others (`fill_subject` to `fill_time`).  A field that is left out of the record stays
  empty, and an empty field is read as nothing.
* From the tree of the whole record the entry is read (`AuditEntry.read_toJson`), and the written
  form has that tree (`Json.decode_render`).
* The written form is one line and not blank, since what a writer puts in it is visible.

**`Loggable`** says which entries these are.  Only what is in the changes matters.  A double need
not come back as it was.  Members are in the order of their names, as they are in every value that
a program can build.  And the reader allows no more than `nestingLimit` containers to enclose each
other.
-/

namespace LifecycleGuard

/-- A value that reads back from a log.  Three containers of the entry stand around it. -/
def Json.Loggable (j : Json) : Prop :=
  isExact j = true ∧ isCanonical j = true ∧ depth j + 3 ≤ nestingLimit

instance (j : Json) : Decidable j.Loggable := inferInstanceAs (Decidable (_ ∧ _))

namespace AttributeChange

/-- A change between values that read back from a log. -/
def Loggable (c : AttributeChange) : Prop := c.old.Loggable ∧ c.new.Loggable

instance (c : AttributeChange) : Decidable c.Loggable := inferInstanceAs (Decidable (_ ∧ _))

theorem read_toJson {c : AttributeChange} (h : c.Loggable) :
    AttributeChange.read (Json.reading c.toJson) = (.ok c : Except ReadError AttributeChange) := by
  have hold : (Source.json (Json.reading c.old) : Except ReadError Json) = .ok c.old :=
    Json.value_reading c.old h.1.2.1
  have hnew : (Source.json (Json.reading c.new) : Except ReadError Json) = .ok c.new :=
    Json.value_reading c.new h.2.2.1
  rw [AttributeChange.read, toJson, Json.readRecord_reading]
  simp only [List.foldlM_cons, List.foldlM_nil, step, Decoding.Slot.fill, hold, hnew]
  rfl

theorem isExact_toJson {c : AttributeChange} (h : c.Loggable) : c.toJson.isExact = true := by
  simp [toJson, Json.isExact, Json.membersExact, h.1.1, h.2.1]

theorem depth_toJson {c : AttributeChange} (h : c.Loggable) : c.toJson.depth ≤ 125 := by
  have hold : c.old.depth + 3 ≤ 127 := h.1.2.2
  have hnew : c.new.depth + 3 ≤ 127 := h.2.2.2
  simp only [toJson, Json.depth, Json.membersDepth]
  omega

end AttributeChange

namespace ChangeSet

/-- Changes between values that read back from a log. -/
def Loggable (c : ChangeSet) : Prop := ∀ m ∈ c.entries, m.2.Loggable

instance (c : ChangeSet) : Decidable c.Loggable :=
  inferInstanceAs (Decidable (∀ m ∈ c.entries, m.2.Loggable))

theorem read_toJson {c : ChangeSet} (h : c.Loggable) :
    ChangeSet.read (Json.reading (toJson c)) = (.ok c : Except ReadError ChangeSet) := by
  rw [ChangeSet.read, toJson,
    Json.readMembers_reading fun m hm => AttributeChange.read_toJson (h m hm)]
  exact congrArg Except.ok (SortedMap.ofList_entries c)

theorem isExact_toJson {c : ChangeSet} (h : c.Loggable) : (toJson c).isExact = true := by
  show Json.membersExact _ = true
  rw [Json.membersExact_iff]
  intro m hm
  obtain ⟨change, hchange, rfl⟩ := List.mem_map.mp hm
  exact AttributeChange.isExact_toJson (h change hchange)

theorem depth_toJson {c : ChangeSet} (h : c.Loggable) : (toJson c).depth ≤ 126 := by
  show Json.membersDepth _ + 1 ≤ 125 + 1
  rw [Nat.add_le_add_iff_right, Json.membersDepth_le_iff]
  intro m hm
  obtain ⟨change, hchange, rfl⟩ := List.mem_map.mp hm
  exact AttributeChange.depth_toJson (h change hchange)

end ChangeSet

namespace AuditEntry

/-- An entry whose changes are between values that read back from a log. -/
def Loggable (e : AuditEntry) : Prop := ∀ c ∈ e.changes, c.Loggable

instance (e : AuditEntry) : Decidable e.Loggable :=
  inferInstanceAs (Decidable (∀ c ∈ e.changes, c.Loggable))

/-! ## Fields -/

theorem readParsed_reading {α : Type} {parse : String → Option α} {s : String} {x : α}
    (h : parse s = some x) :
    readParsed parse (Json.reading (.string s)) = (.ok x : Except ReadError α) := by
  have htext : (Source.text (Json.reading (.string s)) : Except ReadError String) = .ok s := rfl
  rw [readParsed, htext]
  refine (pure_bind s _).trans ?_
  rw [h]
  rfl

theorem readChoice_reading (a : Action) :
    Decoding.readChoice Action.ofName? (Json.reading (.string a.name)) =
      (.ok a : Except ReadError Action) := by
  cases a <;> rfl

namespace Draft

/-- The draft with the fields that some members hold. -/
def fill (d : Draft) (members : List (String × Json)) : Except ReadError Draft :=
  members.foldlM (fun d m => d.step m.1 (Json.reading m.2)) d

theorem fill_append {d d' d'' : Draft} {members more : List (String × Json)}
    (h : d.fill members = .ok d') (h' : d'.fill more = .ok d'') :
    d.fill (members ++ more) = .ok d'' := by
  unfold fill at *
  rw [List.foldlM_append, h]
  exact h'

/-- A draft in which no field was filled. -/
def empty : Draft := ⟨none, none, none, none, none, none, none, none, none, none, none⟩

theorem fill_subject {d : Draft} (hd : d.id = none ∧ d.subjectId = none ∧ d.subjectType = none)
    (e : AuditEntry) :
    d.fill [("entry_id", .string e.id.render), ("subject_id", .string e.subjectId),
      ("subject_type", .string e.subjectType)] =
      .ok { d with
        id := some e.id
        subjectId := some e.subjectId
        subjectType := some e.subjectType } := by
  have hid := readParsed_reading (Uuid.parse?_render e.id)
  simp only [fill, List.foldlM_cons, List.foldlM_nil]
  unfold step
  simp only [hd, Decoding.Slot.fill, hid]
  rfl

theorem fill_version {d : Draft} (hd : d.subjectVersion = none) (v : Option Int64) :
    d.fill (match v with
      | some v => [("subject_version", Json.ofInt64 v)]
      | none => []) = .ok { d with subjectVersion := v.map some } := by
  cases v with
  | none => rw [Option.map_none, ← hd]; rfl
  | some v =>
    have hread := Json.readOptional_reading (by simp [Json.ofInt64]) (Json.integer_reading v)
    simp only [fill, List.foldlM_cons, List.foldlM_nil]
    unfold step
    simp only [hd, Decoding.Slot.fill, hread]
    rfl

theorem fill_action {d : Draft}
    (hd : d.actorId = none ∧ d.actorType = none ∧ d.action = none ∧ d.success = none)
    (e : AuditEntry) :
    d.fill [("actor_id", .string e.actorId), ("actor_type", .string e.actorType),
      ("action", .string e.action.name), ("success", .bool e.success)] =
      .ok { d with
        actorId := some e.actorId
        actorType := some e.actorType
        action := some e.action
        success := some e.success } := by
  have haction := readChoice_reading e.action
  simp only [fill, List.foldlM_cons, List.foldlM_nil]
  unfold step
  simp only [hd, Decoding.Slot.fill, haction]
  rfl

theorem fill_message {d : Draft} (hd : d.message = none) (m : Option String) :
    d.fill (match m with
      | some m => [("message", .string m)]
      | none => []) = .ok { d with message := m.map some } := by
  cases m with
  | none => rw [Option.map_none, ← hd]; rfl
  | some m =>
    simp only [fill, List.foldlM_cons, List.foldlM_nil]
    unfold step
    simp only [hd, Decoding.Slot.fill]
    rfl

theorem fill_changes {d : Draft} (hd : d.changes = none) (c : Option ChangeSet) :
    (∀ c' ∈ c, c'.Loggable) → d.fill (match c with
      | some c => [("changes", ChangeSet.toJson c)]
      | none => []) = .ok { d with changes := c.map some } := by
  intro h
  cases c with
  | none => rw [Option.map_none, ← hd]; rfl
  | some c =>
    have hread := Json.readOptional_reading (by simp [ChangeSet.toJson])
      (ChangeSet.read_toJson (h c rfl))
    simp only [fill, List.foldlM_cons, List.foldlM_nil]
    unfold step
    simp only [hd, Decoding.Slot.fill, hread]
    rfl

theorem fill_time {d : Draft} (hd : d.createdAt = none) (t : Instant) :
    d.fill [("created_at", .string (Rfc3339.render t))] = .ok { d with createdAt := some t } := by
  have htime := readParsed_reading (Rfc3339.parse?_render t)
  simp only [fill, List.foldlM_cons, List.foldlM_nil]
  unfold step
  simp only [hd, Decoding.Slot.fill, htime]
  rfl

end Draft

/-- The draft of an entry, with every field that was written in its place. -/
def drafted (e : AuditEntry) : Draft where
  id := some e.id
  subjectId := some e.subjectId
  subjectType := some e.subjectType
  subjectVersion := e.subjectVersion.map some
  actorId := some e.actorId
  actorType := some e.actorType
  action := some e.action
  success := some e.success
  message := e.message.map some
  changes := e.changes.map some
  createdAt := some e.createdAt

/-- The members of a written entry. -/
def members (e : AuditEntry) : List (String × Json) :=
  match e.toJson with
  | .object members => members
  | _ => []

theorem fill_members {e : AuditEntry} (h : e.Loggable) :
    Draft.empty.fill e.members = .ok e.drafted := by
  have hsubject := Draft.fill_subject (d := .empty) ⟨rfl, rfl, rfl⟩ e
  have hversion := Draft.fill_append hsubject (Draft.fill_version rfl e.subjectVersion)
  have haction := Draft.fill_append hversion (Draft.fill_action ⟨rfl, rfl, rfl, rfl⟩ e)
  have hmessage := Draft.fill_append haction (Draft.fill_message rfl e.message)
  have hchanges := Draft.fill_append hmessage (Draft.fill_changes rfl e.changes h)
  exact Draft.fill_append hchanges (Draft.fill_time rfl e.createdAt)

/-- What is read from the tree of an entry is the entry. -/
theorem read_toJson {e : AuditEntry} (h : e.Loggable) :
    AuditEntry.read (Json.reading e.toJson) = (.ok e : Except ReadError AuditEntry) := by
  have hjson : e.toJson = .object e.members := rfl
  have hrecord : Decoding.readRecord fieldNames Draft.step Draft.empty (Json.reading e.toJson) =
      (.ok e.drafted : Except ReadError Draft) := by
    rw [hjson, Json.readRecord_reading]
    exact fill_members h
  have hoption : ∀ {α : Type} (o : Option α), (o.map some).getD none = o := by
    intro α o
    cases o <;> rfl
  rw [AuditEntry.read]
  show (Decoding.readRecord fieldNames Draft.step Draft.empty (Json.reading e.toJson) >>= _) = _
  rw [hrecord]
  show (.ok { e with
    subjectVersion := (e.subjectVersion.map some).getD none
    message := (e.message.map some).getD none
    changes := (e.changes.map some).getD none } : Except ReadError AuditEntry) = .ok e
  rw [hoption, hoption, hoption]

/-! ## The written form of an entry -/

/-- The members of a written entry are scalars and the changes. -/
theorem mem_members {e : AuditEntry} {m : String × Json} (h : m ∈ e.members) :
    (m.2.isExact = true ∧ m.2.depth = 0) ∨ ∃ c ∈ e.changes, m.2 = ChangeSet.toJson c := by
  simp only [members, toJson, jsonWith, List.mem_append] at h
  rcases h with ((((h | h) | h) | h) | h) | h
  · left
    simp only [List.mem_cons, List.not_mem_nil, or_false] at h
    rcases h with rfl | rfl | rfl <;> exact ⟨rfl, rfl⟩
  · left
    cases hv : e.subjectVersion with
    | none => simp [hv] at h
    | some v =>
      simp only [hv, List.mem_singleton] at h
      subst h
      exact ⟨rfl, rfl⟩
  · left
    simp only [List.mem_cons, List.not_mem_nil, or_false] at h
    rcases h with rfl | rfl | rfl | rfl <;> exact ⟨rfl, rfl⟩
  · left
    cases hm : e.message with
    | none => simp [hm] at h
    | some text =>
      simp only [hm, List.mem_singleton] at h
      subst h
      exact ⟨rfl, rfl⟩
  · right
    cases hc : e.changes with
    | none => simp [hc] at h
    | some c =>
      simp only [hc, List.mem_singleton] at h
      exact ⟨c, rfl, congrArg Prod.snd h⟩
  · left
    rw [List.mem_singleton] at h
    subst h
    exact ⟨rfl, rfl⟩

theorem isExact_toJson {e : AuditEntry} (h : e.Loggable) : e.toJson.isExact = true := by
  show Json.membersExact e.members = true
  rw [Json.membersExact_iff]
  intro m hm
  obtain ⟨hexact, -⟩ | ⟨c, hc, heq⟩ := mem_members hm
  · exact hexact
  · rw [heq]
    exact ChangeSet.isExact_toJson (h c hc)

theorem depth_toJson {e : AuditEntry} (h : e.Loggable) : e.toJson.depth ≤ Json.nestingLimit := by
  show Json.membersDepth e.members + 1 ≤ 126 + 1
  rw [Nat.add_le_add_iff_right, Json.membersDepth_le_iff]
  intro m hm
  obtain ⟨-, hdepth⟩ | ⟨c, hc, heq⟩ := mem_members hm
  · omega
  · rw [heq]
    exact ChangeSet.depth_toJson (h c hc)

theorem decode_render {e : AuditEntry} (h : e.Loggable) :
    Json.decode AuditEntry.read e.toJson.render = .ok e :=
  Json.decode_render (isExact_toJson h) (depth_toJson h) (read_toJson h)

theorem not_mem_chars (e : AuditEntry) {c : Char} (h : c.toNat < 0x20) : c ∉ e.toJson.chars := by
  intro hc
  have := Json.visible_chars e.toJson c hc
  omega

/-- The written form begins with a brace. -/
theorem chars_eq_cons (e : AuditEntry) :
    e.toJson.chars = Char.ofNat 0x7B :: (Json.membersChars e.members ++ [Char.ofNat 0x7D]) := rfl

theorem not_blank_chars (e : AuditEntry) : e.toJson.chars.all Text.isBlank = false := by
  rw [chars_eq_cons]
  rfl

/-- **An entry reads back from its written form**, which is one line and not blank. -/
theorem roundTrip (e : AuditEntry) (h : e.Loggable) :
    Json.decode AuditEntry.read e.toJson.render = .ok e ∧
      '\n' ∉ e.toJson.render.toList ∧ '\r' ∉ e.toJson.render.toList ∧
      Text.isBlankText e.toJson.render = false := by
  refine ⟨decode_render h, ?_, ?_, ?_⟩
  · rw [Json.render, String.toList_ofList]
    exact not_mem_chars e (by decide)
  · rw [Json.render, String.toList_ofList]
    exact not_mem_chars e (by decide)
  · rw [Text.isBlankText, Json.render, String.toList_ofList]
    exact not_blank_chars e

/-- An entry with empty texts, a change of nothing to a nested value, an empty name, characters of
every kind that is escaped, a year before the common era and an inserted second. -/
def awkward : AuditEntry where
  id := .nil
  subjectId := ""
  subjectType := "a\"b\\c\n\r\t\x07\x1f/\u2028\u00e9"
  subjectVersion := some (-9223372036854775808)
  actorId := " "
  actorType := "\x7f"
  action := .destroy
  success := false
  message := some ""
  changes := some ⟨[("", ⟨.null, .array [.object [("", .null), ("\n", .string "\r")], .array []]⟩),
    ("n", ⟨.number (.whole (-1) (by decide)), .bool false⟩)], by decide⟩
  createdAt := ⟨⟨-44, 2, 29, by decide⟩, 23, 59, 60, 120000000, by decide⟩

theorem roundTrip_awkward : awkward.Loggable ∧
    Json.decode AuditEntry.read awkward.toJson.render = .ok awkward ∧
      '\n' ∉ awkward.toJson.render.toList ∧ '\r' ∉ awkward.toJson.render.toList ∧
      Text.isBlankText awkward.toJson.render = false :=
  ⟨by decide, roundTrip awkward (by decide)⟩

end AuditEntry

end LifecycleGuard
