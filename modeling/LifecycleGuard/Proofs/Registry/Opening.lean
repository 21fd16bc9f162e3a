import LifecycleGuard.Proofs.Files.Tree
import LifecycleGuard.Proofs.Work.Run
import LifecycleGuard.Registry

/-!
# Opening a registry of declarations that are refused

A registry is opened in two steps: the store that the document asks for, then the check of the
document.  The check can refuse the document when the store is open already, and is not made when
the store cannot be opened.

**The store.**  Only a store on a file touches files, and its path is `StorageSettings.file?`.  What
becomes of the files is what creating that file comes to (`FileTree.Created`).

**The document.**  `ofDeclarations_opened` and `ofDeclarations_closed` are the two ways for a
document that is wrong.  `traceless_file_iff` puts them together: that the document is wrong is
reported, and all files are as they were, exactly if the log that is asked for is there already or
is no file.  Otherwise there is a new file, or the failure of the store is reported in place of the
document's.
-/

namespace LifecycleGuard

/-! ## Opening the store -/

/-- The path of the log that is asked for, if it is a file. -/
def StorageSettings.file? (s : StorageSettings) : Option String :=
  match s.kind with
  | .file => some (s.path.getD standardPath)
  | _ => none

namespace Store

variable {s : StorageSettings} {path : String}

/-- A store that is no file is opened without touching any. -/
theorem ofSettings_other (h : s.file? = none) (m : Media) :
    ∃ store m', ofSettings s m = (.ok store, m') ∧ m'.files = m.files := by
  obtain ⟨kind, file⟩ := s
  cases kind with
  | file => cases h
  | _ => exact ⟨_, _, rfl, rfl⟩

theorem ofSettings_file (h : s.file? = some path) (m : Media) :
    ofSettings s m = openFile path m := by
  obtain ⟨kind, file⟩ := s
  cases kind <;> cases h
  rfl

theorem ofSettings_created (h : s.file? = some path) {m : Media} {files : FileTree}
    (hcreate : m.files.create path = .ok files) :
    ofSettings s m = (.ok (.file path), { m with files }) := by
  rw [ofSettings_file h, openFile, hcreate]

theorem ofSettings_refused (h : s.file? = some path) {m : Media} {error : FileError}
    (hcreate : m.files.create path = .error error) :
    ofSettings s m = (.error (.file error), m) := by
  rw [ofSettings_file h, openFile, hcreate]

end Store

namespace Registry

variable {d : Declarations} {e : DeclarationError} {w : Work}

/-! ## Checking the document -/

/-- A wrong document is refused when its store is open. -/
theorem ofDeclarations_opened (hinvalid : d.validate = .error e) {s : Store} {m : Media}
    (hopen : Store.ofSettings d.audit.storage w.media = (.ok s, m)) :
    ofDeclarations d w = (.ok (.error (.load (.declaration e))), { w with media := m }) := by
  have hstore : Run.onMedia (Store.ofSettings d.audit.storage) w =
      (.ok (.ok s), { w with media := m }) := by
    rw [Run.onMedia, hopen]
  have hcheck : withStore d s = ⟨[], .error e⟩ := by
    rw [withStore, hinvalid]
    rfl
  have hnoted : Run.noted (withStore d s) { w with media := m } =
      (.ok (.error e), { w with media := m }) := by
    rw [Run.noted, hcheck]
    simp only [List.append_nil]
  rw [ofDeclarations, Run.bind_of_ok hstore]
  exact Run.bind_of_ok hnoted _

/-- A document whose store cannot be opened is not looked at. -/
theorem ofDeclarations_closed {error : AuditError} {m : Media}
    (hopen : Store.ofSettings d.audit.storage w.media = (.error error, m)) :
    ofDeclarations d w = (.ok (.error (.audit error)), { w with media := m }) := by
  have hstore : Run.onMedia (Store.ofSettings d.audit.storage) w =
      (.ok (.error error), { w with media := m }) := by
    rw [Run.onMedia, hopen]
  rw [ofDeclarations, Run.bind_of_ok hstore]
  rfl

/-- What is wrong with the document is reported, and all files are as they were. -/
def Traceless (e : DeclarationError) (w : Work)
    (outcome : Except Interrupt (Except RegistryError Registry) × Work) : Prop :=
  outcome.1 = .ok (.error (.load (.declaration e))) ∧ outcome.2.media.files = w.media.files

theorem traceless_other (hinvalid : d.validate = .error e)
    (hfile : d.audit.storage.file? = none) : Traceless e w (ofDeclarations d w) := by
  obtain ⟨store, m, hopen, hfiles⟩ := Store.ofSettings_other hfile w.media
  rw [ofDeclarations_opened hinvalid hopen]
  exact ⟨rfl, hfiles⟩

/-- A log that is there already is opened without a trace, and only such a log. -/
theorem traceless_file_iff (hinvalid : d.validate = .error e) {path : String}
    (hfile : d.audit.storage.file? = some path) :
    Traceless e w (ofDeclarations d w) ↔ ∃ content, w.media.files.Holds path content := by
  have hcreated := FileTree.created w.media.files path
  cases hcreate : w.media.files.create path with
  | error error =>
    rw [ofDeclarations_closed (Store.ofSettings_refused hfile hcreate)]
    constructor
    · rintro ⟨hresult, -⟩
      cases hresult
    · rintro ⟨content, hholds⟩
      obtain ⟨files, happend, -⟩ := hholds.append []
      cases hcreate.symm.trans happend
  | ok files =>
    rw [ofDeclarations_opened hinvalid (Store.ofSettings_created hfile hcreate)]
    rw [hcreate] at hcreated
    cases hcreated with
    | there hholds => exact iff_of_true ⟨rfl, rfl⟩ ⟨_, hholds⟩
    | new hmissing hholds =>
      constructor
      · rintro ⟨-, hfiles⟩
        exact ⟨[], hfiles ▸ hholds⟩
      · rintro ⟨content, hthere⟩
        cases hmissing.symm.trans hthere.read

/-- **What opening leaves of a document that is refused.**  It is reported and nothing is touched
exactly if the log that it asks for is there already or is no file.  If the log cannot be created
that is reported, and not what is wrong with the document; if it is new there is an empty file
afterwards.  A text and a file are loaded as the document that they hold. -/
theorem rejected (hinvalid : d.validate = .error e) (w : Work) :
    (Traceless e w (ofDeclarations d w) ↔
      ∀ path ∈ d.audit.storage.file?, ∃ content, w.media.files.Holds path content) ∧
    (∀ path ∈ d.audit.storage.file?, ∀ error, w.media.files.create path = .error error →
      ofDeclarations d w = (.ok (.error (.audit (.file error))), w)) ∧
    (∀ path ∈ d.audit.storage.file?, (∀ content, ¬ w.media.files.Holds path content) →
      ∀ files, w.media.files.create path = .ok files →
        ofDeclarations d w = (.ok (.error (.load (.declaration e))),
          { w with media := { w.media with files } }) ∧
        w.media.files.read path = .error .missing ∧ files.Holds path []) ∧
    (∀ text, Declarations.ofYaml text = .ok d → ofYaml text w = ofDeclarations d w) ∧
    ∀ path, Declarations.ofFile w.media.files path = .ok d →
      ofFile path w = ofDeclarations d w := by
  refine ⟨?_, fun path hfile error hcreate => ?_, fun path hfile hnone files hcreate => ⟨?_, ?_⟩,
    fun text htext => ?_, fun path hpath => ?_⟩
  · cases hfile : d.audit.storage.file? with
    | none => exact iff_of_true (traceless_other hinvalid hfile) (by simp)
    | some path => simpa using traceless_file_iff hinvalid hfile
  · exact ofDeclarations_closed (Store.ofSettings_refused hfile hcreate)
  · exact ofDeclarations_opened hinvalid (Store.ofSettings_created hfile hcreate)
  · have hcreated := FileTree.created w.media.files path
    rw [hcreate] at hcreated
    cases hcreated with
    | there hholds => exact absurd hholds (hnone _)
    | new hmissing hholds => exact ⟨hmissing, hholds⟩
  · rw [ofYaml, htext]
    rfl
  · have hread : Run.onMedia (fun m => (Declarations.ofFile m.files path, m)) w =
        (.ok (.ok d), w) := by
      rw [Run.onMedia, hpath]
    rw [ofFile, Run.bind_of_ok hread]
    rfl

/-- Declarations with an audit clause for an action that there is not, and with a log. -/
def wrongNotes (path : String) : Declarations where
  audit := ⟨true, ⟨.file, some path⟩⟩
  entities := .ofList [("note",
    { EntityDeclaration.empty with audits := [⟨["publish"], [], [], none⟩] })]

/-- What is wrong with them. -/
def notAnAction : DeclarationError := .inEntity "note" (.unknownAuditAction "publish")

theorem validate_wrongNotes (path : String) : (wrongNotes path).validate = .error notAnAction :=
  rfl

/-- Work with a log that is there, and empty. -/
def withEmptyLog : Work :=
  let w := Work.start .epoch
  { w with media := { w.media with files := ⟨SortedMap.empty.insert "log" (.file [])⟩ } }

theorem holds_emptyLog : withEmptyLog.media.files.Holds "log" [] :=
  ⟨"log", "log", FileTree.resolve_log _, rfl⟩

theorem rejected_wrongNotes :
    (wrongNotes "log").validate = .error notAnAction ∧
      Traceless notAnAction withEmptyLog (ofDeclarations (wrongNotes "log") withEmptyLog) := by
  refine ⟨validate_wrongNotes _, (rejected (validate_wrongNotes _) withEmptyLog).1.mpr ?_⟩
  intro path hpath
  obtain rfl : "log" = path := Option.some.inj hpath
  exact ⟨[], holds_emptyLog⟩

/-- **A document that is refused leaves a new log**, and a log that cannot be created hides what is
wrong with the document. -/
theorem wrongNotes_traced :
    ((wrongNotes "log").validate = .error notAnAction ∧
      (Work.start .epoch).media.files.read "log" = .error .missing ∧
      (ofDeclarations (wrongNotes "log") (.start .epoch)).1 =
        .ok (.error (.load (.declaration notAnAction))) ∧
      (ofDeclarations (wrongNotes "log") (.start .epoch)).2.media.files.read "log" = .ok []) ∧
    ((wrongNotes "").validate = .error notAnAction ∧
      (ofDeclarations (wrongNotes "") (.start .epoch)).1 =
        .ok (.error (.audit (.file .missing)))) := by
  have hcreate : (Work.start .epoch).media.files.create "log" = .ok withEmptyLog.media.files := by
    rw [FileTree.create, FileTree.append, FileTree.resolve_log]
    rfl
  have hmissing : (Work.start .epoch).media.files.read "log" = .error .missing := by
    rw [FileTree.read, FileTree.resolve_log]
    rfl
  have hopened := ofDeclarations_opened (validate_wrongNotes "log")
    (Store.ofSettings_created rfl hcreate)
  have hclosed : ofDeclarations (wrongNotes "") (.start .epoch) =
      (.ok (.error (.audit (.file .missing))), .start .epoch) :=
    ofDeclarations_closed (Store.ofSettings_refused rfl rfl)
  refine ⟨⟨validate_wrongNotes _, hmissing, ?_, ?_⟩, validate_wrongNotes _, ?_⟩
  · rw [hopened]
  · rw [hopened]
    exact holds_emptyLog.read
  · rw [hclosed]

end Registry

end LifecycleGuard
