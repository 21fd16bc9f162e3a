import LifecycleGuard.Yaml.Tag

/-!
# Tokens

What a YAML text is made of below its structure.  Indentation shows as tokens of its own: a block
collection begins with a start token and ends with `blockEnd`.
-/

namespace LifecycleGuard.Yaml

/-- How a scalar is written, as far as it matters for its meaning. -/
inductive Style where
  | plain
  | literal
  | other
deriving DecidableEq

/-- A token of a YAML text. -/
inductive Token where
  | version (major minor : Nat)
  | tagHandle (handle : String) (expansion : Tag)
  | documentStart
  | documentEnd
  | blockSequenceStart
  | blockMappingStart
  | blockEnd
  | flowSequenceStart
  | flowSequenceEnd
  | flowMappingStart
  | flowMappingEnd
  | blockEntry
  | flowEntry
  | key
  | value
  | alias (name : String)
  | anchor (name : String)
  | tag (handle : String) (suffix : Tag)
  | scalar (style : Style) (text : String)
deriving DecidableEq

end LifecycleGuard.Yaml
