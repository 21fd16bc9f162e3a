import LifecycleGuard.Scenario.Object

/-!
# Stores and files in a scenario

Saving entries, and what stores and the files behind them hold.  Every operation on a store works
on anything that owns one.
-/

namespace LifecycleGuard.Scenario

/-! ## Stores -/

/-- The number of a memory store. -/
def memoryNumber? : Store → Option Nat
  | .memory number => some number
  | _ => none

/-- The identifier that is meant. -/
def EntryRef.resolve (shown : Shown) : EntryRef → Option Uuid
  | .id u => some u
  | .shown n => Shown.id? shown n

/-- Do an operation on an existing store. -/
def StoreOp.perform (os : Objects) (shown : Shown) : StoreOp → Run Outcome
  | save owner e => os.use Object.store? owner fun s => do
    return Outcome.ofUnit .audit (← Run.onMedia (s.save e))
  | query owner f => os.use Object.store? owner fun s => do
    match ← Run.onMedia fun m => (s.query f m, m) with
    | .ok es => return .entries es
    | .error e => return .failed (.audit e)
  | get owner ref => os.use Object.store? owner fun s =>
    match ref.resolve shown with
    | none => pure (.unknownName owner)
    | some id => do
      return Outcome.ofEntry .audit (← Run.onMedia fun m => (s.get id m, m))
  | entries owner => os.use (fun o => o.store?.bind memoryNumber?) owner fun number =>
    Run.onMedia fun m => (.contents (m.entries number), m)

/-! ## Files -/

/-- The lines of a text, each with its line end. -/
def linesOf (acc : List Char) : List Char → List String
  | [] => if acc.isEmpty then [] else [String.ofList acc.reverse]
  | c :: rest =>
    if c = '\n' then String.ofList (c :: acc).reverse :: linesOf [] rest
    else linesOf (c :: acc) rest

/-- A line with the entry on it. -/
def FileLine.ofText (text : String) : FileLine :=
  ⟨text, (Json.decode AuditEntry.read text).toOption⟩

/-- The lines of a file, if it is there and holds text. -/
def fileLines (files : FileTree) (path : String) : Option (List FileLine) :=
  match files.readText path with
  | .ok text => some ((linesOf [] text.toList).map FileLine.ofText)
  | .error _ => none

/-- Change the files, if nothing is wrong. -/
def changeFiles (f : FileTree → Except FileError FileTree) (m : Media) : Bool × Media :=
  match f m.files with
  | .ok files => (true, { m with files })
  | .error _ => (false, m)

/-- Do an operation on files. -/
def FileOp.perform : FileOp → Run Outcome
  | read path => Run.onMedia fun m => (.lines (fileLines m.files path), m)
  | append path bytes => do
    discard (Run.onMedia (changeFiles fun t => t.append path bytes))
    return .done
  | remove path => do return .flag (← Run.onMedia (changeFiles fun t => t.remove path))
  | makeDirectory path => do
    return .flag (← Run.onMedia (changeFiles fun t => t.makeDirectory path))

end LifecycleGuard.Scenario
