import LifecycleGuard.Collections.SortedMap
import LifecycleGuard.Decoding.Source
import LifecycleGuard.Json.Reading

/-!
# JSON texts as sources

What decoders find in a JSON text.  An object written for a record may list the fields in any
order, and an array may stand for a record; one of several alternatives is a string, or an object
whose only member has the name of the alternative and the value null.  The value of an object
with repeated members takes the last of them, and its members are in the order of their names.

`Json.parse` reads a text as a value, `Json.decode` as whatever a decoder makes of it.
-/

namespace LifecycleGuard.Json

/-- The object of a list of members in the order of a text. -/
def ofMembers (l : List (String × Json)) : Json := .object (SortedMap.ofList l).entries

mutual

/-- The value of a tree. -/
def Reading.value : Reading → Except ReadError Json
  | .null => .ok .null
  | .bool b => .ok (.bool b)
  | .number s => Json.number <$> s.value
  | .string s => Json.string <$> s.value
  | .array items close => do
    let xs ← itemValues items
    match close with
    | none => .ok (.array xs)
    | some e => .error e
  | .object members close => do
    let ms ← memberValues members
    match close with
    | none => .ok (ofMembers ms)
    | some e => .error e
  | .deep _ => .error .malformed
  | .fault f => .error f.error

/-- The values of items. -/
def itemValues : List Reading → Except ReadError (List Json)
  | [] => .ok []
  | r :: rest => do
    let x ← r.value
    let xs ← itemValues rest
    return x :: xs

/-- The values of members. -/
def memberValues : List (Reading × Reading) → Except ReadError (List (String × Json))
  | [] => .ok []
  | (k, r) :: rest => do
    let k ← k.memberName
    let x ← r.value
    let xs ← memberValues rest
    return (k, x) :: xs

end

mutual

/-- What a tree holds, to be looked at later. -/
def Reading.content : Reading → Except ReadError Content
  | .null => .ok .other
  | .bool _ => .ok .other
  | .number s => do let _ ← s.value; return .other
  | .string s => Content.text <$> s.value
  | .array items close => do
    let xs ← itemContents items
    match close with
    | none => .ok (.list xs)
    | some e => .error e
  | .object members close => do
    let ms ← memberContents members
    match close with
    | none => .ok (.map ms)
    | some e => .error e
  | .deep _ => .error .malformed
  | .fault f => .error f.error

/-- What items hold. -/
def itemContents : List Reading → Except ReadError (List Content)
  | [] => .ok []
  | r :: rest => do
    let x ← r.content
    let xs ← itemContents rest
    return x :: xs

/-- What members hold. -/
def memberContents : List (Reading × Reading) → Except ReadError (List (Content × Content))
  | [] => .ok []
  | (k, r) :: rest => do
    let k ← k.memberName
    let x ← r.content
    let xs ← memberContents rest
    return (.text k, x) :: xs

end

namespace Reading

/-- A text. -/
def text : Reading → Except ReadError String
  | .string s => s.value
  | r => .error r.unexpected

/-- A truth value. -/
def flag : Reading → Except ReadError Bool
  | .bool b => .ok b
  | r => .error r.unexpected

/-- A signed whole number of sixty-four bits. -/
def integer : Reading → Except ReadError Int64
  | .number s => do
    match ← s.value with
    | .whole n _ => if n < 9223372036854775808 then .ok (Int64.ofInt n) else .error .mismatch
    | .double _ => .error .mismatch
  | r => .error r.unexpected

/-- The items of a list. -/
def items : Reading → Except ReadError (Listing Reading)
  | .array items close => .ok ⟨items, close⟩
  | .deep (.array _ _) => .error .malformed
  | r => .error r.unexpected

/-- The members of a map. -/
def members : Reading → Except ReadError (Listing (Reading × Reading))
  | .object members close => .ok ⟨members, close⟩
  | .deep (.object _ _) => .error .malformed
  | r => .error r.unexpected

/-- The fields of a record. -/
def fields : Reading → Except ReadError (Fields Reading)
  | .object members close => .ok (.byName ⟨members, close⟩)
  | .array items close => .ok (.byPosition ⟨items, close⟩)
  | .deep _ => .error .malformed
  | r => .error r.unexpected

/-- What is wrong in an object behind the first name of an alternative. -/
def afterChoice (value : Reading) (more : List (Reading × Reading)) (close : Option ReadError) :
    Except ReadError Unit :=
  match value with
  | .null =>
    if !more.isEmpty then .error .malformed
    else match close with
      | none => .ok ()
      | some e => .error e
  | r => .error r.unexpected

/-- One of several alternatives. -/
def choice : Reading → Except ReadError (String × Except ReadError Unit)
  | .string s => do return (← s.value, .ok ())
  | .object [] none => .error .malformed
  | .object [] (some e) => .error e
  | .object ((name, value) :: more) close => do
    return (← name.memberName, afterChoice value more close)
  | .fault .missing => .error .truncated
  | _ => .error .malformed

end Reading

instance : Source Reading (Except ReadError) where
  text := Reading.text
  flag := Reading.flag
  integer := Reading.integer
  optional
    | .null => .ok none
    | r => .ok (some r)
  items := Reading.items
  members := Reading.members
  name := Reading.memberName
  fields := Reading.fields
  choice := Reading.choice
  json := Reading.value
  content := Reading.content
  skip := Reading.skip

/-- Read a text with a decoder; nothing but space may follow the value. -/
def decode {α : Type} (decoder : Reading → Except ReadError α) (text : String) :
    Except ReadError α := do
  let (r, ended) := Reading.ofChars text.toList
  let x ← decoder r
  if ended then return x else .error .malformed

/-- Read a text as a value. -/
def parse (text : String) : Except ReadError Json := decode Reading.value text

mutual

/-- The tree of the written form of a value. -/
def reading : Json → Reading
  | .null => .null
  | .bool b => .bool b
  | .number n => .number ⟨.ok n, .ok ()⟩
  | .string s => .string ⟨.ok s, .ok ()⟩
  | .array items => .array (itemReadings items) none
  | .object members => .object (memberReadings members) none

/-- The trees of items. -/
def itemReadings : List Json → List Reading
  | [] => []
  | j :: rest => reading j :: itemReadings rest

/-- The trees of members. -/
def memberReadings : List (String × Json) → List (Reading × Reading)
  | [] => []
  | (k, j) :: rest => (.string ⟨.ok k, .ok ()⟩, reading j) :: memberReadings rest

end

/-- Read a value with a decoder.  There is no text that could be faulty, so whatever the decoder
rejects is a value of the wrong shape. -/
def convert {α : Type} (decoder : Reading → Except ReadError α) (j : Json) : Except ReadError α :=
  (decoder (reading j)).mapError fun _ => .mismatch

end LifecycleGuard.Json
