import LifecycleGuard.Declaration.Document
import LifecycleGuard.Files.Tree
import LifecycleGuard.Yaml.Source

/-!
# Loading declarations

Where documents of declarations come from: a YAML text, or a file that holds one.  Loading does
not check what is declared.
-/

namespace LifecycleGuard.Declarations

/-- The document of a text. -/
def ofYaml (text : String) : Except LoadError Declarations :=
  match Yaml.decode Declarations.read text with
  | .ok d => .ok d
  | .error _ => .error .notDocument

/-- The document in a file. -/
def ofFile (files : FileTree) (path : String) : Except LoadError Declarations :=
  match files.readText path with
  | .ok text => ofYaml text
  | .error e => .error (.file e)

end LifecycleGuard.Declarations
