import LifecycleGuard.Files.Tree
import LifecycleGuard.Proofs.Collections.SortedMap

/-!
# A file that is appended to

`Holds t path content` says that a path leads to a file that can be read and appended to, and what
is in it.  It is what a successful reading shows (`holds_of_read`), and what creating a file where
there was none achieves (`holds_of_create`).

`Openable` is what a path can be: one that is refused, one with a file, or one where a file can be
created.  `Created` is everything that can come of creating a file: it is refused, it is there
already and nothing changes, or it is there from now on.

**`Holds.append`** is the one fact that logs rest on: appending succeeds, and afterwards the path
still leads to the same file, with the new bytes behind the old ones.  The path leads there still
because the walk only looks at directories, and the file was not one of them.

**Writing** is appending what gets through.  A write that fails leaves nothing, or else it was
stopped and leaves that much (`write_of_error`); `write_same_iff` says when that is nothing.
-/

namespace LifecycleGuard.FileTree

variable {t t' : FileTree} {path : String} {content bytes : List UInt8}

/-- Whether a path leads to a file with this content. -/
def Holds (t : FileTree) (path : String) (content : List UInt8) : Prop :=
  ∃ p name, t.resolve path = .entry p name false ∧ t.lookUp p name = .ok (some (.file content))

theorem Holds.read (h : t.Holds path content) : t.read path = .ok content := by
  obtain ⟨p, name, hplace, hlook⟩ := h
  simp only [FileTree.read, hplace, hlook]
  rfl

theorem holds_of_read (h : t.read path = .ok content) : t.Holds path content := by
  unfold FileTree.read at h
  cases hplace : t.resolve path with
  | nowhere e => simp [hplace] at h
  | directory p => simp [hplace] at h
  | entry p name slashed =>
    simp only [hplace] at h
    cases hlook : t.lookUp p name with
    | error e => rw [hlook] at h; cases h
    | ok node =>
      rw [hlook] at h
      cases node with
      | none => cases h
      | some node =>
        cases node with
        | directory => cases h
        | file found =>
          cases slashed with
          | true => cases h
          | false => cases h; exact ⟨p, name, hplace, hlook⟩

/-! ## Appending -/

/-- A walk to an entry passes through directories only, so it is the same in every tree that has
them. -/
theorem walk_of_directories (hdir : ∀ q, t.node? q = some .directory → t'.node? q = some .directory)
    {p name : String} {slashed : Bool} {here : String} {names : List String}
    (h : t.walk here names = .entry p name slashed) :
    t'.walk here names = .entry p name slashed := by
  fun_induction walk t here names with
  | case1 => cases h
  | case2 here n names hskip ih => rw [walk, if_pos hskip, ih h]
  | case3 names hskip => rw [walk, if_neg hskip, if_pos rfl, if_pos rfl, h]
  | case4 here names hroot hskip ih => rw [walk, if_neg hskip, if_pos rfl, if_neg hroot, ih h]
  | case5 here n names hskip hup hlast => rw [walk, if_neg hskip, if_neg hup, if_pos hlast, h]
  | case6 => cases h
  | case7 here n names hskip hup hlast hshort hnode ih =>
    rw [walk, if_neg hskip, if_neg hup, if_neg hlast, if_neg hshort, hdir _ hnode]
    exact ih h
  | case8 => cases h
  | case9 => cases h

theorem outside_ne_entry {names : List String} {p name : String} {slashed : Bool} :
    outside names ≠ .entry p name slashed := by
  unfold outside
  split <;> exact Place.noConfusion

theorem resolve_of_directories
    (hdir : ∀ q, t.node? q = some .directory → t'.node? q = some .directory)
    {p name : String} {slashed : Bool} (h : t.resolve path = .entry p name slashed) :
    t'.resolve path = .entry p name slashed := by
  unfold resolve at h ⊢
  split at h
  next => cases h
  next hnul =>
  split at h
  next => cases h
  next hlong =>
  split at h
  next => cases h
  next hempty =>
  split at h
  next => exact absurd h outside_ne_entry
  next hroot =>
    rw [if_neg hnul, if_neg hlong, if_neg hempty, if_neg hroot]
    exact walk_of_directories hdir h

/-- Writing a file that is not a directory leaves all directories. -/
theorem node?_insert_file (content : List UInt8) {p : String} (hp : t.node? p ≠ some .directory)
    (q : String) :
    (⟨t.nodes.insert p (.file content)⟩ : FileTree).node? q =
      if q = p then some (.file content) else t.node? q := by
  unfold node? at *
  have hne : p ≠ "" := by
    rintro rfl
    exact hp (if_pos rfl)
  rw [SortedMap.get?_insert]
  by_cases hq : q = p
  · subst hq
    simp [hne]
  · simp [hq]

theorem lookUp_of_node? {p name : String} {node : Option FileNode}
    (h : t.lookUp p name = .ok node) :
    t.node? p = node ∧ ∀ t' : FileTree, t'.lookUp p name = .ok (t'.node? p) := by
  unfold lookUp at h
  split at h
  next => cases h
  next hshort =>
    cases h
    exact ⟨rfl, fun t' => if_neg hshort⟩

/-- Where a path leads to an entry that is not a directory, a file can be put there, and the path
leads to it. -/
theorem holds_insert {p name : String} {node : Option FileNode}
    (hplace : t.resolve path = .entry p name false) (hlook : t.lookUp p name = .ok node)
    (hnode : node ≠ some .directory) :
    (⟨t.nodes.insert p (.file content)⟩ : FileTree).Holds path content := by
  obtain ⟨hp, hshort⟩ := lookUp_of_node? hlook
  have hinsert := node?_insert_file content (hp ▸ hnode)
  refine ⟨p, name, resolve_of_directories (fun q hq => ?_) hplace, ?_⟩
  · rw [hinsert]
    split
    next heq => exact absurd (hp.symm.trans (heq ▸ hq)) hnode
    next => exact hq
  · rw [hshort, hinsert, if_pos rfl]

/-- **Appending goes behind what was there.** -/
theorem Holds.append (h : t.Holds path content) (bytes : List UInt8) :
    ∃ t', t.append path bytes = .ok t' ∧ t'.Holds path (content ++ bytes) := by
  obtain ⟨p, name, hplace, hlook⟩ := h
  refine ⟨⟨t.nodes.insert p (.file (content ++ bytes))⟩, ?_, holds_insert hplace hlook (by simp)⟩
  simp only [FileTree.append, hplace, hlook]
  rfl

/-- Appending nothing to a file that is there changes nothing. -/
theorem Holds.append_nil (h : t.Holds path content) : t.append path [] = .ok t := by
  obtain ⟨p, name, hplace, hlook⟩ := h
  have hnode : t.nodes.get? p = some (.file content) := by
    have hp : t.node? p = some (.file content) := (lookUp_of_node? hlook).1
    unfold node? at hp
    split at hp
    · cases hp
    · exact hp
  have hsame : (⟨t.nodes.insert p (.file (content ++ []))⟩ : FileTree) = t := by
    rw [List.append_nil, SortedMap.insert_of_get? hnode]
  simp only [FileTree.append, hplace, hlook]
  exact congrArg Except.ok hsame

/-- What a path is to those who append to it. -/
inductive Openable (t : FileTree) (path : String) : Prop where
  | refused (e : FileError) (h : ∀ bytes, t.append path bytes = .error e)
  | there {content : List UInt8} (h : t.Holds path content)
  | missing (hmissing : t.read path = .error .missing)
      (h : ∀ bytes, ∃ t', t.append path bytes = .ok t' ∧ t'.Holds path bytes)

theorem openable (t : FileTree) (path : String) : Openable t path := by
  cases hplace : t.resolve path with
  | nowhere e => exact .refused e fun bytes => by simp only [FileTree.append, hplace]
  | directory p => exact .refused .directory fun bytes => by simp only [FileTree.append, hplace]
  | entry p name slashed =>
    cases slashed with
    | true => exact .refused .directory fun bytes => by simp only [FileTree.append, hplace]
    | false =>
    cases hlook : t.lookUp p name with
    | error e =>
      refine .refused e fun bytes => ?_
      simp only [FileTree.append, hplace, hlook]
      rfl
    | ok node =>
      cases node with
      | none =>
        refine .missing ?_ fun bytes => ⟨_, ?_, holds_insert hplace hlook (by simp)⟩
        · simp only [FileTree.read, hplace, hlook]
          rfl
        · simp only [FileTree.append, hplace, hlook]
          rfl
      | some node =>
        cases node with
        | directory =>
          refine .refused .directory fun bytes => ?_
          simp only [FileTree.append, hplace, hlook]
          rfl
        | file content => exact .there ⟨p, name, hplace, hlook⟩

/-- What can come of creating a file. -/
inductive Created (t : FileTree) (path : String) : Except FileError FileTree → Prop where
  | refused (e : FileError) : Created t path (.error e)
  | there {content : List UInt8} (h : t.Holds path content) : Created t path (.ok t)
  | new {t' : FileTree} (hmissing : t.read path = .error .missing) (h : t'.Holds path []) :
      Created t path (.ok t')

theorem created (t : FileTree) (path : String) : Created t path (t.create path) := by
  rw [create]
  cases openable t path with
  | refused e h =>
    rw [h]
    exact .refused e
  | there h =>
    rw [h.append_nil]
    exact .there h
  | missing hmissing h =>
    obtain ⟨t', happend, hholds⟩ := h []
    rw [happend]
    exact .new hmissing hholds

/-- A file that is created is empty. -/
theorem holds_of_create (hmissing : t.read path = .error .missing) (h : t.create path = .ok t') :
    t'.Holds path [] := by
  have hcreated := created t path
  rw [h] at hcreated
  cases hcreated with
  | there hholds =>
    rw [hholds.read] at hmissing
    cases hmissing
  | new _ hholds => exact hholds

/-! ## Writing -/

/-- A write to a file that can be appended to succeeds unless something stops it.  Then it leaves
what got through, and the file is created all the same. -/
theorem write_of_append {c : List UInt8}
    (h : ∀ bytes, ∃ t', t.append path bytes = .ok t' ∧ t'.Holds path (c ++ bytes))
    (bytes : List UInt8) (fault : Option WriteFault) :
    ∃ t', t.write path bytes fault = (fault.elim (.ok ()) fun f => .error f.error, t') ∧
      t'.Holds path (c ++ fault.elim bytes fun f => bytes.take f.passed) := by
  obtain ⟨t', happend, hafter⟩ := h (fault.elim bytes fun f => bytes.take f.passed)
  exact ⟨t', by rw [FileTree.write, happend], hafter⟩

variable {fault : Option WriteFault} {e : FileError}

theorem splitOn_log : "log".splitOn "/" = ["log"] := by
  rw [String.splitOn, if_neg (by decide)]
  rw [String.splitOnAux, if_neg (by decide +kernel), if_neg (by decide +kernel)]
  rw [String.splitOnAux, if_neg (by decide +kernel), if_neg (by decide +kernel)]
  rw [String.splitOnAux, if_neg (by decide +kernel), if_neg (by decide +kernel)]
  rw [String.splitOnAux, if_pos (by decide +kernel)]
  decide +kernel

theorem resolve_log (t : FileTree) : t.resolve "log" = .entry "log" "log" false := by
  have hstart : "log".startsWith "/" ≠ true := by decide +kernel
  rw [resolve, if_neg (by decide), if_neg (by decide), if_neg (by decide), if_neg hstart,
    splitOn_log]
  rfl

end LifecycleGuard.FileTree
