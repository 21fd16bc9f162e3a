import LifecycleGuard.Proofs.Audit.LogFile

/-!
# Files and memory answer alike

A program that saves and asks for entries cannot tell whether they are kept in memory or in a file.

The program is a list of `Step`s.  It opens handles, as many and as often as it likes, and every
other step goes through one of the handles that it has.  What opening a handle means is a parameter
of the run (`Opening`): for a file it is opening the file, for a memory store it is taking the same
store once more.

**`Mirrors`** is what ties the two runs together: the file holds the lines of the entries that are
in memory, and nothing else.  `Mirrors.step` says that every step keeps this and is answered alike
on both sides; `answers_eq` carries it along a whole program.  In particular opening a file that is
already there changes nothing in it.

What is saved must be `Loggable`.  A double would come back as written, which need not be the double
that was saved, and deeper values than the reader's limit would not come back at all.  And the files
must take what is written to them (`Media.Faultless`), as memory always does.
-/

namespace LifecycleGuard.Store

/-- A step of a program that works with handles. -/
inductive Step where
  | open
  | save (handle : Nat) (entry : AuditEntry)
  | query (handle : Nat) (filter : AuditFilter)
  | get (handle : Nat) (id : Uuid)

/-- What a step is answered with. -/
inductive Answer where
  | opened (result : Except AuditError Unit)
  | saved (result : Except AuditError Unit)
  | found (result : Except AuditError (List AuditEntry))
  | got (result : Except AuditError (Option AuditEntry))
  /-- The program has no such handle. -/
  | unopened

/-- How a handle is opened. -/
abbrev Opening := Media → Except AuditError Store × Media

/-- Opening a handle on a memory store that is there. -/
def openMemory (number : Nat) : Opening := fun m => (.ok (.memory number), m)

/-- The handles of a program and the media. -/
structure Desk where
  handles : List Store
  media : Media

/-- A step through a handle, if the program has it. -/
def Desk.through (d : Desk) (handle : Nat) (call : Store → Answer × Media) : Answer × Desk :=
  match d.handles[handle]? with
  | some s => ((call s).1, { d with media := (call s).2 })
  | none => (.unopened, d)

/-- One step. -/
def Step.run (opening : Opening) (d : Desk) : Step → Answer × Desk
  | .open =>
    match opening d.media with
    | (.ok s, media) => (.opened (.ok ()), ⟨d.handles ++ [s], media⟩)
    | (.error e, media) => (.opened (.error e), ⟨d.handles, media⟩)
  | .save handle e => d.through handle fun s =>
    (.saved (s.save e d.media).1, (s.save e d.media).2)
  | .query handle f => d.through handle fun s => (.found (s.query f d.media), d.media)
  | .get handle id => d.through handle fun s => (.got (s.get id d.media), d.media)

/-- The answers to a program. -/
def answers (opening : Opening) : List Step → Desk → List Answer
  | [], _ => []
  | step :: steps, d => (step.run opening d).1 :: answers opening steps (step.run opening d).2

/-- A step that saves nothing that would not read back. -/
def Step.Loggable : Step → Prop
  | .save _ e => e.Loggable
  | _ => True

/-! ## The two sides -/

/-- Whether the one side keeps in a file what the other keeps in memory. -/
structure Mirrors (path : String) (number : Nat) (onFile inMemory : Desk) : Prop where
  handles : ∃ n, onFile.handles = List.replicate n (.file path) ∧
    inMemory.handles = List.replicate n (.memory number)
  holds : onFile.media.files.Holds path ((inMemory.media.entries number).flatMap LogFile.line)
  loggable : ∀ e ∈ inMemory.media.entries number, e.Loggable
  faultless : onFile.media.Faultless

variable {path : String} {number : Nat} {onFile inMemory : Desk}

/-- What is read from the file is what is in memory. -/
theorem Mirrors.everything (h : Mirrors path number onFile inMemory) :
    (Store.file path).everything onFile.media =
      (Store.memory number).everything inMemory.media := by
  rw [everything_file h.holds.read]
  exact LogFile.entries_written fun e he => AuditEntry.decode_render (h.loggable e he)

/-- **Every step is answered alike, and the file keeps what memory keeps.** -/
theorem Mirrors.step (h : Mirrors path number onFile inMemory) {step : Step}
    (hstep : step.Loggable) :
    (step.run (openFile path) onFile).1 = (step.run (openMemory number) inMemory).1 ∧
      Mirrors path number (step.run (openFile path) onFile).2
        (step.run (openMemory number) inMemory).2 := by
  obtain ⟨n, hfile, hmemory⟩ := h.handles
  cases step with
  | «open» =>
    simp only [Step.run, openFile_of_holds h.holds, openMemory]
    refine ⟨trivial, ⟨n + 1, ?_, ?_⟩, h.holds, h.loggable, h.faultless⟩
    · rw [hfile, ← List.replicate_succ']
    · rw [hmemory, ← List.replicate_succ']
  | save handle e =>
    simp only [Step.run, Desk.through, hfile, hmemory, List.getElem?_replicate]
    by_cases hhandle : handle < n
    · obtain ⟨m', hsave, hholds, hfaults⟩ := save_file h.holds e h.faultless.fault?
      simp only [hhandle, if_true, hsave]
      refine ⟨rfl, ⟨n, rfl, rfl⟩, ?_, ?_, ?_⟩
      · rw [entries_save_memory]
        simpa using hholds
      · rw [entries_save_memory]
        intro e' he'
        rcases List.mem_append.mp he' with he' | he'
        · exact h.loggable e' he'
        · rw [List.mem_singleton.mp he']
          exact hstep
      · rw [Media.Faultless, hfaults]
        exact h.faultless.tail
    · simp only [hhandle, if_false]
      exact ⟨trivial, h⟩
  | query handle f =>
    simp only [Step.run, Desk.through, hfile, hmemory, List.getElem?_replicate]
    by_cases hhandle : handle < n
    · simp only [hhandle, if_true, query, h.everything]
      exact ⟨trivial, ⟨n, rfl, rfl⟩, h.holds, h.loggable, h.faultless⟩
    · simp only [hhandle, if_false]
      exact ⟨trivial, h⟩
  | get handle id =>
    simp only [Step.run, Desk.through, hfile, hmemory, List.getElem?_replicate]
    by_cases hhandle : handle < n
    · simp only [hhandle, if_true, get, h.everything]
      exact ⟨trivial, ⟨n, rfl, rfl⟩, h.holds, h.loggable, h.faultless⟩
    · simp only [hhandle, if_false]
      exact ⟨trivial, h⟩

theorem Mirrors.answers (h : Mirrors path number onFile inMemory) {steps : List Step}
    (hsteps : ∀ step ∈ steps, step.Loggable) :
    answers (openFile path) steps onFile = answers (openMemory number) steps inMemory := by
  induction steps generalizing onFile inMemory with
  | nil => rfl
  | cons step steps ih =>
    obtain ⟨hanswer, hmirrors⟩ := h.step (hsteps step List.mem_cons_self)
    have hrest := ih hmirrors fun step' h' => hsteps step' (List.mem_cons_of_mem _ h')
    rw [Store.answers, Store.answers, hanswer, hrest]

/-- A file that was created just now mirrors a memory store without entries. -/
theorem mirrors_of_created {m m₁ m' : Media} {s : Store}
    (hmissing : m.files.read path = .error .missing) (hopen : openFile path m = (.ok s, m₁))
    (hempty : m'.entries number = []) (hfaultless : m.Faultless) :
    Mirrors path number ⟨[s], m₁⟩ ⟨[.memory number], m'⟩ := by
  unfold openFile at hopen
  cases hcreate : m.files.create path with
  | error e => rw [hcreate] at hopen; cases hopen
  | ok files =>
    rw [hcreate] at hopen
    cases hopen
    refine ⟨⟨1, rfl, rfl⟩, ?_, ?_, hfaultless⟩
    · rw [hempty]
      exact FileTree.holds_of_create hmissing hcreate
    · rw [hempty]
      intro e he
      cases he

/-- **A file that was not there before and a memory store without entries answer every program
alike**, once the file has been opened for the first time, if nothing stops what is written to
it. -/
theorem answers_eq {m m₁ m' : Media} {s : Store} (hmissing : m.files.read path = .error .missing)
    (hopen : openFile path m = (.ok s, m₁)) (hempty : m'.entries number = [])
    (hfaultless : m.Faultless) {steps : List Step}
    (hsteps : ∀ step ∈ steps, step.Loggable) :
    answers (openFile path) steps ⟨[s], m₁⟩ =
      answers (openMemory number) steps ⟨[.memory number], m'⟩ :=
  (mirrors_of_created hmissing hopen hempty hfaultless).answers hsteps

/-- A program that saves through two handles, the second of them opened in between. -/
def reopening : List Step :=
  [.save 0 .awkward, .open, .query 1 .all, .save 1 .awkward, .get 0 .nil]

theorem answers_eq_reopening :
    Media.blank.files.read "log" = .error .missing ∧
      openFile "log" Media.blank = (.ok (.file "log"), .withLog []) ∧
      Media.blank.entries 0 = [] ∧ Media.blank.Faultless ∧
      (∀ step ∈ reopening, step.Loggable) ∧
      answers (openFile "log") reopening ⟨[.file "log"], .withLog []⟩ =
        answers (openMemory 0) reopening ⟨[.memory 0], Media.blank⟩ := by
  have hmissing : Media.blank.files.read "log" = .error .missing := by
    rw [FileTree.read, FileTree.resolve_log]
    rfl
  have hopen : openFile "log" Media.blank = (.ok (.file "log"), .withLog []) := by
    rw [openFile, FileTree.create, FileTree.append, FileTree.resolve_log]
    rfl
  have hsteps : ∀ step ∈ reopening, step.Loggable := by
    have hawkward : AuditEntry.awkward.Loggable := by decide
    simp [reopening, Step.Loggable, hawkward]
  have hfaultless : Media.blank.Faultless := List.forall_mem_nil _
  exact ⟨hmissing, hopen, rfl, hfaultless, hsteps,
    answers_eq hmissing hopen rfl hfaultless hsteps⟩

end LifecycleGuard.Store
