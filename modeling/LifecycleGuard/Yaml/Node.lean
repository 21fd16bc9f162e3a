import LifecycleGuard.Collections.SortedMap
import LifecycleGuard.Yaml.Token

/-!
# Nodes

The structure of a document: scalars, sequences and mappings, each with a tag if one is written.
An alias stays an alias; `Document.resolve` follows it.  A text without any document in it has
the node `void`.

An alias names a node by the number of its anchor.  The number of an anchor is how many
different names have been used for anchors before it; a name that is used again therefore can
take the number of a later name, and whichever node took a number last is the one that is meant.
-/

namespace LifecycleGuard.Yaml

/-- A part of a document. -/
inductive Node where
  | void
  | scalar (tag : Option Tag) (style : Style) (text : String)
  | sequence (tag : Option Tag) (items : List Node)
  | mapping (tag : Option Tag) (entries : List (Node × Node))
  | alias (anchor : Nat)

namespace Node

/-- A scalar that is not written. -/
def blank (tag : Option Tag) : Node := .scalar tag .plain ""

mutual

/-- The number of marks and scalars that make up a node. -/
def weight : Node → Nat
  | .sequence _ items => 2 + weightItems items
  | .mapping _ entries => 2 + weightEntries entries
  | _ => 1

/-- The weight of items. -/
def weightItems : List Node → Nat
  | [] => 0
  | n :: rest => n.weight + weightItems rest

/-- The weight of entries. -/
def weightEntries : List (Node × Node) → Nat
  | [] => 0
  | (k, n) :: rest => k.weight + n.weight + weightEntries rest

end

end Node

/-- The anchors of a document. -/
structure Anchors where
  /-- The number of each name. -/
  numbers : SortedMap String Nat
  /-- Which node took each number last; nodes are counted as they begin. -/
  holders : SortedMap Nat Nat
  /-- The anchored nodes. -/
  nodes : SortedMap Nat Node
  /-- How many anchored nodes have begun. -/
  begun : Nat

namespace Anchors

/-- No anchors. -/
def none : Anchors := ⟨.empty, .empty, .empty, 0⟩

/-- Begin a node with an anchor. -/
def enter (a : Anchors) (name : String) : Anchors :=
  let number := a.numbers.size
  { a with
    numbers := a.numbers.insert name number
    holders := a.holders.insert number a.begun
    begun := a.begun + 1 }

/-- Begin a node that may have an anchor. -/
def enter? (a : Anchors) : Option String → Anchors
  | some name => a.enter name
  | Option.none => a

/-- End the node that began as the one of a given count. -/
def define (a : Anchors) (count : Nat) (n : Node) : Anchors :=
  { a with nodes := a.nodes.insert count n }

/-- The node that a number means. -/
def node? (a : Anchors) (number : Nat) : Option Node := do
  a.nodes.get? (← a.holders.get? number)

end Anchors

/-- A document. -/
structure Document where
  root : Node
  anchors : Anchors

/-- The node itself, or the one that an alias names. -/
def Document.resolve (d : Document) : Node → Option Node
  | .alias number => d.anchors.node? number
  | n => some n

end LifecycleGuard.Yaml
