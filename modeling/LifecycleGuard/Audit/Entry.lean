import LifecycleGuard.Action
import LifecycleGuard.Actor
import LifecycleGuard.Entity
import LifecycleGuard.Json.Printer
import LifecycleGuard.Time.Rfc3339
import LifecycleGuard.Uuid

/-!
# Audit entries

The record of one lifecycle event: who did what to which entity, whether it succeeded, an
optional message, and the changes that the filter let through.  A missing actor is recorded as
anonymous with the identity `0`.

An entry has three outward forms.

* The written form is a JSON object with the fields in the order of the declaration; version,
  message and changes are left out where there are none.
* The log line is one line for people.
* `missingField?` says which of the four identity texts is blank; an entry that misses one must
  not be persisted.
-/

namespace LifecycleGuard

/-- The record of one lifecycle event. -/
structure AuditEntry where
  id : Uuid
  subjectId : String
  subjectType : String
  subjectVersion : Option Int64
  actorId : String
  actorType : String
  action : Action
  success : Bool
  message : Option String
  changes : Option ChangeSet
  createdAt : Instant
deriving DecidableEq

namespace AuditEntry

/-- An entry about an entity type of which nothing else is known yet. -/
def blank (id : Uuid) (now : Instant) (action : Action) (subjectType : String) : AuditEntry where
  id := id
  subjectId := ""
  subjectType := subjectType
  subjectVersion := none
  actorId := Actor.anonymousId
  actorType := Actor.anonymous
  action := action
  success := false
  message := none
  changes := none
  createdAt := now

/-- The entry with an actor; without one it stays as it is. -/
def withActor (e : AuditEntry) : Option Actor → AuditEntry
  | some a => { e with actorId := a.id, actorType := a.kind }
  | none => e

/-- The entry with the identity and the version that an entity has now. -/
def about (e : AuditEntry) (subject : Entity) : AuditEntry :=
  { e with subjectId := subject.id.getD "", subjectVersion := subject.version }

/-- The entry with changes; no changes at all are recorded as none. -/
def changing (e : AuditEntry) (changes : ChangeSet) : AuditEntry :=
  { e with changes := if changes.isEmpty then none else some changes }

/-- The entry about a mutation that has begun. -/
def unfinished (id : Uuid) (now : Instant) (action : Action) (subject : Entity)
    (actor : Option Actor) (changes : ChangeSet) (message : Option String) : AuditEntry :=
  { (((blank id now action subject.type).about subject).withActor actor).changing changes with
    message }

/-- The entry about a mutation that is over, with what the entity is now. -/
def finished (e : AuditEntry) (subject : Entity) (now : Instant) : AuditEntry :=
  { e.about subject with success := true, createdAt := now }

/-- The entry about a find. -/
def found (id : Uuid) (now : Instant) (subject : Entity) (actor : Option Actor)
    (message : Option String) : AuditEntry :=
  { ((blank id now .find subject.type).about subject).withActor actor with
    message, success := true }

/-! ## Validity -/

/-- The texts that every persisted entry must carry, with their names. -/
def required (e : AuditEntry) : List (String × String) :=
  [("subject_id", e.subjectId), ("subject_type", e.subjectType), ("actor_id", e.actorId),
    ("actor_type", e.actorType)]

/-- The first required text that is blank. -/
def missingField? (e : AuditEntry) : Option String :=
  (e.required.find? fun f => Text.isBlankText f.2).map Prod.fst

/-- What is said about a blank field. -/
def missingMessage (field : String) : String :=
  "audit entry is missing required field '" ++ field ++ "'"

/-! ## Log line -/

/-- A truth value as a word. -/
def flagText (b : Bool) : String := if b then "true" else "false"

/-- The version, the changed names and the message, as far as they are there. -/
def remarks (e : AuditEntry) : String :=
  (match e.subjectVersion with
    | some v => " version=" ++ String.ofList (Json.intChars v.toInt)
    | none => "")
  ++ (match e.changes with
    | some c => " changed_fields=[" ++ String.intercalate "," c.keys ++ "]"
    | none => "")
  ++ (match e.message with
    | some m => " message=\"" ++ m.map (fun c => if c = Json.quote then '\'' else c) ++ "\""
    | none => "")

/-- What a log line says behind the time. -/
def logBody (e : AuditEntry) : String :=
  e.action.capitals ++ " subject=" ++ e.subjectType ++ ":" ++ e.subjectId ++
    " actor=" ++ e.actorType ++ ":" ++ e.actorId ++ " success=" ++ flagText e.success ++ e.remarks

/-- The log line. -/
def logLine (e : AuditEntry) : String :=
  "[" ++ Rfc3339.logText e.createdAt ++ "] " ++ e.logBody

/-! ## Written form -/

/-- The written form with the texts for identifier and time given. -/
def jsonWith (id time : String) (e : AuditEntry) : Json :=
  .object ([("entry_id", .string id), ("subject_id", .string e.subjectId),
      ("subject_type", .string e.subjectType)]
    ++ (match e.subjectVersion with
      | some v => [("subject_version", Json.ofInt64 v)]
      | none => [])
    ++ [("actor_id", .string e.actorId), ("actor_type", .string e.actorType),
      ("action", .string e.action.name), ("success", .bool e.success)]
    ++ (match e.message with
      | some m => [("message", .string m)]
      | none => [])
    ++ (match e.changes with
      | some c => [("changes", ChangeSet.toJson c)]
      | none => [])
    ++ [("created_at", .string time)])

/-- The written form. -/
def toJson (e : AuditEntry) : Json := jsonWith e.id.render (Rfc3339.render e.createdAt) e

/-- An entry that is being read. -/
structure Draft where
  id : Option Uuid
  subjectId : Option String
  subjectType : Option String
  subjectVersion : Option (Option Int64)
  actorId : Option String
  actorType : Option String
  action : Option Action
  success : Option Bool
  message : Option (Option String)
  changes : Option (Option ChangeSet)
  createdAt : Option Instant

/-- The names of the fields. -/
def fieldNames : List String :=
  ["entry_id", "subject_id", "subject_type", "subject_version", "actor_id", "actor_type",
    "action", "success", "message", "changes", "created_at"]

variable {σ : Type} {m : Type → Type} [Monad m] [MonadExcept ReadError m] [Source σ m]

/-- Read a text that has a form of its own. -/
def readParsed {α : Type} (parse : String → Option α) (s : σ) : m α := do
  match parse (← Source.text s) with
  | some x => return x
  | none => throw .mismatch

/-- Read one field into its place. -/
def Draft.step (d : Draft) (name : String) (s : σ) : m Draft := do
  match name with
  | "entry_id" => return { d with id := ← Decoding.Slot.fill (readParsed Uuid.parse?) d.id s }
  | "subject_id" => return { d with subjectId := ← Decoding.Slot.fill Source.text d.subjectId s }
  | "subject_type" =>
    return { d with subjectType := ← Decoding.Slot.fill Source.text d.subjectType s }
  | "subject_version" =>
    return { d with subjectVersion :=
      ← Decoding.Slot.fill (Decoding.readOptional Source.integer) d.subjectVersion s }
  | "actor_id" => return { d with actorId := ← Decoding.Slot.fill Source.text d.actorId s }
  | "actor_type" => return { d with actorType := ← Decoding.Slot.fill Source.text d.actorType s }
  | "action" =>
    return { d with action := ← Decoding.Slot.fill (Decoding.readChoice Action.ofName?) d.action s }
  | "success" => return { d with success := ← Decoding.Slot.fill Source.flag d.success s }
  | "message" =>
    return { d with message :=
      ← Decoding.Slot.fill (Decoding.readOptional Source.text) d.message s }
  | "changes" =>
    return { d with changes :=
      ← Decoding.Slot.fill (Decoding.readOptional ChangeSet.read) d.changes s }
  | "created_at" =>
    return { d with createdAt := ← Decoding.Slot.fill (readParsed Rfc3339.parse?) d.createdAt s }
  | _ => Source.skip s; return d

/-- Read an entry; version, message and changes may be missing. -/
def read (s : σ) : m AuditEntry := do
  let d ← Decoding.readRecord fieldNames Draft.step
    ⟨none, none, none, none, none, none, none, none, none, none, none⟩ s
  return {
    id := ← Decoding.Slot.required d.id
    subjectId := ← Decoding.Slot.required d.subjectId
    subjectType := ← Decoding.Slot.required d.subjectType
    subjectVersion := d.subjectVersion.getD none
    actorId := ← Decoding.Slot.required d.actorId
    actorType := ← Decoding.Slot.required d.actorType
    action := ← Decoding.Slot.required d.action
    success := ← Decoding.Slot.required d.success
    message := d.message.getD none
    changes := d.changes.getD none
    createdAt := ← Decoding.Slot.required d.createdAt }

end AuditEntry

end LifecycleGuard
