import LifecycleGuard.Audit.Error
import LifecycleGuard.Audit.Filter
import LifecycleGuard.Files.Tree
import LifecycleGuard.Json.Source

/-!
# Stores

Where finished entries go.  A `Store` is only a name for a place; what is in the place is part of
the `Media`, so several stores can share a place and a store never holds anything itself.

* A memory store keeps entries in the order in which they were saved.
* A file store appends one line per entry to a file and reads the file anew for every query.
  Blank lines are passed over; the first line that is not an entry ends the reading.  If the
  writing of a line stops on its way, the store refuses the entry, and part of the line stays.
* The console prints log lines and remembers nothing; the null store does neither.
* A limited store takes a number of entries, which nobody can query, and refuses all others.
-/

namespace LifecycleGuard

/-- Everything that stores write to. -/
structure Media where
  files : FileTree
  /-- What stops the saves to files that are still to come, one by one, if anything does.  Nothing
  stops those after them. -/
  faults : List (Option WriteFault)
  /-- The entries of each memory store, by its number. -/
  memory : SortedMap Nat (List AuditEntry)
  /-- How many entries each limited store has taken, by its number. -/
  taken : SortedMap Nat Nat
  /-- What was printed, line by line. -/
  printed : List String
  /-- The number of the next store. -/
  nextNumber : Nat
deriving DecidableEq

namespace Media

/-- Media on which nothing was written. -/
def blank : Media := ⟨.empty, [], .empty, .empty, [], 0⟩

/-- What stops the next save to a file. -/
def fault? (m : Media) : Option WriteFault := m.faults.head?.join

/-- The entries of a memory store. -/
def entries (m : Media) (number : Nat) : List AuditEntry := (m.memory.get? number).getD []

/-- How many entries a limited store has taken. -/
def takenBy (m : Media) (number : Nat) : Nat := (m.taken.get? number).getD 0

end Media

/-- A place for finished entries. -/
inductive Store where
  | memory (number : Nat)
  | file (path : String)
  | console
  | null
  | limited (number capacity : Nat) (refusal : AuditError) (text : String)
deriving DecidableEq

/-! ## Logs in files -/

namespace LogFile

/-- The byte that ends a line. -/
def newline : UInt8 := 10

/-- The line of an entry. -/
def line (e : AuditEntry) : List UInt8 := Text.utf8 e.toJson.chars ++ [newline]

/-- A line without the carriage return at its end. -/
def chomp (l : List UInt8) : List UInt8 := if l.getLast? = some 13 then l.dropLast else l

/-- The lines of a file.  What follows the last line end is a line only if it is not empty. -/
def lines : List UInt8 → List UInt8 → List (List UInt8)
  | [], [] => []
  | [], acc => [acc.reverse]
  | b :: rest, acc =>
    if b = newline then chomp acc.reverse :: lines rest [] else lines rest (b :: acc)

/-- The entry on a line, or nothing if the line is blank. -/
def entryOfLine (l : List UInt8) : Except AuditError (Option AuditEntry) :=
  match Text.ofUtf8? l with
  | none => .error (.file .notText)
  | some cs =>
    if cs.all Text.isBlank then .ok none
    else match Json.decode AuditEntry.read (String.ofList cs) with
      | .ok e => .ok (some e)
      | .error e => .error (.unreadable e)

/-- The entries of a list of lines. -/
def entriesOfLines : List (List UInt8) → Except AuditError (List AuditEntry)
  | [] => .ok []
  | l :: rest => do
    let e ← entryOfLine l
    let es ← entriesOfLines rest
    return e.toList ++ es

/-- The entries of a file. -/
def entries (content : List UInt8) : Except AuditError (List AuditEntry) :=
  entriesOfLines (lines content [])

/-- The file system's failures as failures of a store. -/
def lift {α : Type} : Except FileError α → Except AuditError α
  | .ok x => .ok x
  | .error e => .error (.file e)

/-- Every entry of the log under a path. -/
def readAll (files : FileTree) (path : String) : Except AuditError (List AuditEntry) := do
  entries (← lift (files.read path))

end LogFile

/-! ## Operations -/

namespace Store

/-- A new memory store. -/
def newMemory (m : Media) : Store × Media :=
  (.memory m.nextNumber, { m with nextNumber := m.nextNumber + 1 })

/-- A new store that takes a number of entries. -/
def newLimited (capacity : Nat) (refusal : AuditError) (text : String) (m : Media) :
    Store × Media :=
  (.limited m.nextNumber capacity refusal text, { m with nextNumber := m.nextNumber + 1 })

/-- A store on a file, which is created if it is not there. -/
def openFile (path : String) (m : Media) : Except AuditError Store × Media :=
  match m.files.create path with
  | .ok files => (.ok (.file path), { m with files })
  | .error e => (.error (.file e), m)

/-- Persist an entry. -/
def save (s : Store) (e : AuditEntry) (m : Media) : Except AuditError Unit × Media :=
  match s with
  | .memory number =>
    (.ok (), { m with memory := m.memory.insert number (m.entries number ++ [e]) })
  | .file path =>
    let (result, files) := m.files.write path (LogFile.line e) m.fault?
    (LogFile.lift result, { m with files, faults := m.faults.tail })
  | .console => (.ok (), { m with printed := m.printed ++ [e.logLine] })
  | .null => (.ok (), m)
  | .limited number capacity refusal _ =>
    if m.takenBy number < capacity then
      (.ok (), { m with taken := m.taken.insert number (m.takenBy number + 1) })
    else (.error refusal, m)

theorem entries_save_memory (number : Nat) (e : AuditEntry) (m : Media) :
    ((Store.memory number).save e m).2.entries number = m.entries number ++ [e] := by
  show ((m.memory.insert number _).get? number).getD [] = _
  rw [SortedMap.get?_insert, if_pos rfl]
  rfl

/-- Every entry that a store can give back, in the order of saving. -/
def everything (s : Store) (m : Media) : Except AuditError (List AuditEntry) :=
  match s with
  | .memory number => .ok (m.entries number)
  | .file path => LogFile.readAll m.files path
  | .console => .ok []
  | .null => .ok []
  | .limited _ _ _ text => .error (.storage text)

/-- The entries that a filter asks for. -/
def query (s : Store) (f : AuditFilter) (m : Media) : Except AuditError (List AuditEntry) :=
  f.apply <$> s.everything m

/-- The first entry with an identifier. -/
def get (s : Store) (id : Uuid) (m : Media) : Except AuditError (Option AuditEntry) :=
  (List.find? fun e => e.id = id) <$> s.everything m

end Store

end LifecycleGuard
