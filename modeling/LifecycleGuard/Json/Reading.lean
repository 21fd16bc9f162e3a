import LifecycleGuard.Json.Text

/-!
# JSON texts as read

`Reading.ofText` turns a text into a tree without knowing what is going to be asked of it.  A
text that is not JSON still has a tree: the tree goes as far as the text does and carries the
fault in the place where reading stopped.  A decoder walks the tree in the order of the text, so
it meets a value of the wrong shape and a fault in the text in the order in which they stand,
and whichever comes first is what it reports.

Three things are kept that a plain value would lose: members of an object in their order with
repetitions, scalars that can be passed over but not read, and containers nested more deeply
than the limit, which likewise can only be passed over.
-/

namespace LifecycleGuard.Json

open Text (isDigit)

/-- How reading a value stopped. -/
inductive Fault where
  /-- The text ends where a value should begin. -/
  | missing
  /-- The text ends inside a word. -/
  | cut
  /-- There is something else than a value. -/
  | garbled
deriving DecidableEq

/-- What a fault is reported as. -/
def Fault.error : Fault → ReadError
  | .missing => .truncated
  | .cut => .truncated
  | .garbled => .malformed

/-- A value as found in a text.  The list of a container is as long as the text goes on; `close`
is the error at its end if the closing bracket is not there. -/
inductive Reading where
  | null
  | bool (value : Bool)
  | number (scalar : Scalar Number)
  | string (scalar : Scalar String)
  | array (items : List Reading) (close : Option ReadError)
  | object (members : List (Reading × Reading)) (close : Option ReadError)
  /-- A container nested more deeply than the limit. -/
  | deep (inner : Reading)
  | fault (fault : Fault)

/-- The number of containers that may enclose each other. -/
def nestingLimit : Nat := 127

/-- The characters between tokens. -/
def isSpace (c : Char) : Bool := c = ' ' || c = '\n' || c = '\t' || c = '\r'

/-- The text from its next token on. -/
def skipSpace (s : List Char) : List Char := s.dropWhile isSpace

/-- What follows a word, letter by letter. -/
def expectWord : List Char → List Char → Except Fault (List Char)
  | [], s => .ok s
  | _ :: _, [] => .error .cut
  | w :: ws, c :: s => if c = w then expectWord ws s else .error .garbled

/-- A word that stands for a value. -/
def readWord (word : List Char) (value : Reading) (s : List Char) :
    Reading × Option (List Char) :=
  match expectWord word s with
  | .ok rest => (value, some rest)
  | .error f => (.fault f, none)

/-- Mark a container that stands where no more nesting is allowed. -/
def guardDepth (room : Nat) (r : Reading) : Reading := if room = 0 then .deep r else r

/-- What follows a scalar, unless reading stops in it. -/
def afterScalar {α : Type} (s : Scalar α) (rest : List Char) : Option (List Char) :=
  match s.skip with
  | .ok () => some rest
  | .error _ => none

/-- The name at the head of a member, and what follows it unless reading stopped.  A name begins
with a quotation mark; whatever else stands in its place is garbled, be it a value or the
beginning of a word. -/
def readName (s : List Char) : Reading × Option (List Char) :=
  match skipSpace s with
  | [] => (.fault .missing, none)
  | c :: rest =>
    if c.toNat = 0x22 then
      let (t, after) := readString rest
      (.string t, afterScalar t after)
    else (.fault .garbled, none)

mutual

/-- The value at the head of a text, and what follows it unless reading stopped.  `room` is how
many more containers may be opened; the first argument bounds the recursion by the length of the
text. -/
def readValue : Nat → Nat → List Char → Reading × Option (List Char)
  | 0, _, _ => (.fault .garbled, none)
  | fuel + 1, room, s =>
    match skipSpace s with
    | [] => (.fault .missing, none)
    | c :: rest =>
      if c = 'n' then readWord ['u', 'l', 'l'] .null rest
      else if c = 't' then readWord ['r', 'u', 'e'] (.bool true) rest
      else if c = 'f' then readWord ['a', 'l', 's', 'e'] (.bool false) rest
      else if c = '-' ∨ isDigit c then
        let (n, after) := readNumber (c :: rest)
        (.number n, afterScalar n after)
      else if c.toNat = 0x22 then
        let (t, after) := readString rest
        (.string t, afterScalar t after)
      else if c = '[' then
        match skipSpace rest with
        | [] => (guardDepth room (.array [] (some .truncated)), none)
        | ']' :: after => (guardDepth room (.array [] none), some after)
        | _ =>
          let (items, close, after) := readItems fuel (room - 1) rest
          (guardDepth room (.array items close), after)
      else if c.toNat = 0x7B then
        match skipSpace rest with
        | [] => (guardDepth room (.object [] (some .truncated)), none)
        | d :: after =>
          if d.toNat = 0x7D then (guardDepth room (.object [] none), some after)
          else
            let (members, close, after) := readMembers fuel (room - 1) rest
            (guardDepth room (.object members close), after)
      else (.fault .garbled, none)

/-- The items of an array from the next one on.  A comma promises another item, so what is wrong
behind a comma is an item that cannot be read. -/
def readItems : Nat → Nat → List Char →
    List Reading × Option ReadError × Option (List Char)
  | 0, _, _ => ([.fault .garbled], none, none)
  | fuel + 1, room, s =>
    match readValue fuel room s with
    | (item, none) => ([item], none, none)
    | (item, some rest) =>
      match skipSpace rest with
      | [] => ([item], some .truncated, none)
      | ']' :: after => ([item], none, some after)
      | ',' :: more =>
        let (items, close, after) := readItems fuel room more
        (item :: items, close, after)
      | _ => ([item], some .malformed, none)

/-- The members of an object from the next one on.  A name that cannot be read ends the
reading. -/
def readMembers : Nat → Nat → List Char →
    List (Reading × Reading) × Option ReadError × Option (List Char)
  | 0, _, _ => ([(.fault .garbled, .fault .garbled)], none, none)
  | fuel + 1, room, s =>
    match readName s with
    | (.string name, some rest) =>
      match skipSpace rest with
      | [] => ([(.string name, .fault .missing)], none, none)
      | ':' :: more =>
        match readValue fuel room more with
        | (value, none) => ([(.string name, value)], none, none)
        | (value, some rest) =>
          match skipSpace rest with
          | [] => ([(.string name, value)], some .truncated, none)
          | ',' :: more =>
            let (members, close, after) := readMembers fuel room more
            ((.string name, value) :: members, close, after)
          | d :: after =>
            if d.toNat = 0x7D then ([(.string name, value)], none, some after)
            else ([(.string name, value)], some .malformed, none)
      | _ => ([(.string name, .fault .garbled)], none, none)
    | (name, _) => ([(name, .fault .garbled)], none, none)

end

/-- The tree of a text, and whether anything but space follows the value. -/
def Reading.ofChars (s : List Char) : Reading × Bool :=
  match readValue (2 * s.length + 2) nestingLimit s with
  | (r, some rest) => (r, (skipSpace rest).isEmpty)
  | (r, none) => (r, true)

/-! ## The meaning of a tree -/

/-- What is found instead of something expected. -/
def Reading.unexpected : Reading → ReadError
  | .number ⟨.error e, _⟩ => e
  | .string ⟨.error e, _⟩ => e
  | .fault f => f.error
  | _ => .mismatch

/-- The name of a member. -/
def Reading.memberName : Reading → Except ReadError String
  | .string s => s.value
  | .fault f => .error f.error
  | _ => .error .malformed

mutual

/-- Pass over a value. -/
def Reading.skip : Reading → Except ReadError Unit
  | .null => .ok ()
  | .bool _ => .ok ()
  | .number s => s.skip
  | .string s => s.skip
  | .array items close => do
    skipItems items
    match close with
    | none => .ok ()
    | some e => .error e
  | .object members close => do
    skipMembers members
    match close with
    | none => .ok ()
    | some e => .error e
  | .deep r => r.skip
  | .fault f => .error f.error

/-- Pass over items. -/
def skipItems : List Reading → Except ReadError Unit
  | [] => .ok ()
  | r :: rest => do r.skip; skipItems rest

/-- Pass over members. -/
def skipMembers : List (Reading × Reading) → Except ReadError Unit
  | [] => .ok ()
  | (k, r) :: rest => do
    match k with
    | .string s => s.skip
    | .fault f => .error f.error
    | _ => .error .malformed
    r.skip
    skipMembers rest

end

end LifecycleGuard.Json
