import LifecycleGuard.Collections.SortedMap
import LifecycleGuard.Files.Error
import LifecycleGuard.Text.Utf8

/-!
# Files

A directory tree as far as a log needs it: files can be created, appended to, read whole and
removed, and directories can be made.  A file is a list of bytes.  Paths are relative to the root
of the tree; an absolute path leads out of it.

`FileTree.resolve` walks a path name by name, up to the last name, and finds the first thing that
is wrong with it.  What the last name has to be depends on what is to be done: opening for
appending creates the file, reading does not.

A file that was opened may still fail to take what is written to it.  `FileTree.write` is told
where the writing stops, and leaves as much in the file as has got through by then.
-/

namespace LifecycleGuard

/-- What stands under a path. -/
inductive FileNode where
  | file (content : List UInt8)
  | directory
deriving DecidableEq

/-- How a write to a file stops on its way. -/
structure WriteFault where
  /-- How many bytes have got through by then. -/
  passed : Nat
  /-- What is reported. -/
  error : FileError
deriving DecidableEq

/-- A directory tree: what stands under each path, a path being its names with slashes between
them. -/
structure FileTree where
  nodes : SortedMap String FileNode
deriving DecidableEq

namespace FileTree

/-- The tree without files. -/
def empty : FileTree := ⟨.empty⟩

/-- What stands under a path of the tree; the root is a directory. -/
def node? (t : FileTree) (path : String) : Option FileNode :=
  if path = "" then some .directory else t.nodes.get? path

/-- The path one name further down. -/
def descend (path name : String) : String := if path = "" then name else path ++ "/" ++ name

/-- The directory that holds what a path names. -/
def ascend (path : String) : String :=
  String.intercalate "/" ((path.splitOn "/").dropLast)

/-- What a path comes to, up to its last name. -/
inductive Place where
  /-- A directory, which the path names by dots. -/
  | directory (path : String)
  /-- A name in a directory.  What stands there has not been looked up yet; `slashed` says whether
  a slash follows the name. -/
  | entry (path name : String) (slashed : Bool)
  | nowhere (error : FileError)

/-- The longest name, in bytes. -/
def nameLimit : Nat := 255

/-- The longest path, in bytes. -/
def pathLimit : Nat := 4095

/-- The place that names lead to from outside the tree.  There are directories all the way up, and
nothing else is known to be there. -/
def outside (names : List String) : Place :=
  if names.all fun n => n = "" || n = "." || n = ".." then .directory "" else .nowhere .missing

/-- Walk the names of a path, from the directory that is reached so far. -/
def walk (t : FileTree) (here : String) : List String → Place
  | [] => .directory here
  | name :: rest =>
    if name = "" ∨ name = "." then walk t here rest
    else if name = ".." then
      if here = "" then outside rest else walk t (ascend here) rest
    else if rest.all (· = "") then .entry (descend here name) name !rest.isEmpty
    else if nameLimit < name.utf8ByteSize then .nowhere .nameTooLong
    else
      match t.node? (descend here name) with
      | some .directory => walk t (descend here name) rest
      | some (.file _) => .nowhere .notDirectory
      | none => .nowhere .missing

/-- Find the place that a path names. -/
def resolve (t : FileTree) (path : String) : Place :=
  if path.toList.contains (Char.ofNat 0) then .nowhere .nulInName
  else if pathLimit < path.utf8ByteSize then .nowhere .nameTooLong
  else if path = "" then .nowhere .missing
  else if path.startsWith "/" then outside (path.splitOn "/")
  else walk t "" (path.splitOn "/")

/-- What stands under the path of an entry, unless its name is too long to be looked up. -/
def lookUp (t : FileTree) (path name : String) : Except FileError (Option FileNode) :=
  if nameLimit < name.utf8ByteSize then .error .nameTooLong else .ok (t.node? path)

/-- The bytes of a file.  A slash behind its name asks for a directory. -/
def read (t : FileTree) (path : String) : Except FileError (List UInt8) :=
  match t.resolve path with
  | .nowhere e => .error e
  | .directory _ => .error .directory
  | .entry p name slashed => do
    match ← t.lookUp p name with
    | some (.file content) => if slashed then .error .notDirectory else return content
    | some .directory => .error .directory
    | none => .error .missing

/-- The text of a file. -/
def readText (t : FileTree) (path : String) : Except FileError String := do
  match Text.ofUtf8? (← t.read path) with
  | some s => return String.ofList s
  | none => .error .notText

/-- Append some bytes to a file, which is created if it is not there.  No file is created under a
name with a slash behind it, so that name is not even looked up. -/
def append (t : FileTree) (path : String) (bytes : List UInt8) : Except FileError FileTree :=
  match t.resolve path with
  | .nowhere e => .error e
  | .directory _ => .error .directory
  | .entry _ _ true => .error .directory
  | .entry p name false => do
    match ← t.lookUp p name with
    | some (.file content) => return ⟨t.nodes.insert p (.file (content ++ bytes))⟩
    | some .directory => .error .directory
    | none => return ⟨t.nodes.insert p (.file bytes)⟩

/-- Write behind the end of a file, which is created if it is not there.  If the writing stops on
its way, what has got through stays in the file. -/
def write (t : FileTree) (path : String) (bytes : List UInt8) (fault : Option WriteFault) :
    Except FileError Unit × FileTree :=
  match t.append path (fault.elim bytes fun f => bytes.take f.passed) with
  | .ok written => (fault.elim (.ok ()) fun f => .error f.error, written)
  | .error e => (.error e, t)

/-- Make sure that there is a file to append to. -/
def create (t : FileTree) (path : String) : Except FileError FileTree := t.append path []

/-- Remove a file. -/
def remove (t : FileTree) (path : String) : Except FileError FileTree :=
  match t.resolve path with
  | .nowhere e => .error e
  | .directory _ => .error .directory
  | .entry p name slashed => do
    match ← t.lookUp p name with
    | some (.file _) => if slashed then .error .notDirectory else return ⟨t.nodes.erase p⟩
    | some .directory => .error .directory
    | none => .error .missing

/-- Make a directory; it is not an error if it is there already. -/
def makeDirectory (t : FileTree) (path : String) : Except FileError FileTree :=
  match t.resolve path with
  | .nowhere e => .error e
  | .directory _ => return t
  | .entry p name _ => do
    match ← t.lookUp p name with
    | some .directory => return t
    | some (.file _) => .error .notDirectory
    | none => return ⟨t.nodes.insert p .directory⟩

end FileTree

end LifecycleGuard
