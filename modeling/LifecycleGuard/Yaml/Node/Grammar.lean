import LifecycleGuard.Yaml.Node
import LifecycleGuard.Yaml.Token.Stream

/-!
# From tokens to a document

`Document.ofTokens?` builds the one document of a text.  It follows the grammar of block and flow
collections token by token.  Wherever a node may be left out an empty plain scalar takes its
place.  A text with a second document is refused.
-/

namespace LifecycleGuard.Yaml

/-- What is known while a document is built. -/
structure Builder where
  /-- What each tag handle stands for. -/
  handles : List (String × Tag)
  anchors : Anchors

/-- The tag that a handle and a suffix make. -/
def Builder.tag? (b : Builder) (handle : String) (suffix : Tag) : Option Tag :=
  if handle = "" then some suffix
  else (b.handles.find? fun h => h.1 = handle).map fun h => h.2.append suffix

/-- Anchor and tag of a node, in either order. -/
def readProperties (b : Builder) : List Token →
    Option (Option String × Option Tag × List Token)
  | .anchor name :: .tag handle suffix :: rest => do
    return (some name, some (← b.tag? handle suffix), rest)
  | .anchor name :: rest => some (some name, none, rest)
  | .tag handle suffix :: .anchor name :: rest => do
    return (some name, some (← b.tag? handle suffix), rest)
  | .tag handle suffix :: rest => do return (none, some (← b.tag? handle suffix), rest)
  | rest => some (none, none, rest)

/-- Something that has been built, with what is known behind it and the tokens left. -/
structure Built (α : Type) where
  value : α
  builder : Builder
  rest : List Token

/-- Whether a node is missing before the next token, in a block sequence. -/
def missingItem : List Token → Bool
  | .blockEntry :: _ => true
  | .blockEnd :: _ => true
  | _ => false

/-- Whether a node is missing before the next token, in a block mapping. -/
def missingMember : List Token → Bool
  | .key :: _ => true
  | .value :: _ => true
  | .blockEnd :: _ => true
  | _ => false

/-- Whether a node is missing before the next token, in a sequence without indentation. -/
def missingBareItem (ts : List Token) : Bool := missingItem ts || missingMember ts

/-- Whether a node is missing before the next token, behind a key in braces. -/
def missingFlowKey : List Token → Bool
  | .value :: _ => true
  | .flowEntry :: _ => true
  | .flowMappingEnd :: _ => true
  | _ => false

/-- Whether a node is missing before the next token, behind a colon in braces. -/
def missingFlowValue : List Token → Bool
  | .flowEntry :: _ => true
  | .flowMappingEnd :: _ => true
  | _ => false

/-- Whether a node is missing before the next token, behind a colon in brackets. -/
def missingPairValue : List Token → Bool
  | .flowEntry :: _ => true
  | .flowSequenceEnd :: _ => true
  | _ => false

mutual

/-- A node.  `block` allows block collections, `bare` also sequences without indentation. -/
def readNode (block bare : Bool) : Nat → Builder → List Token → Option (Built Node)
  | 0, _, _ => none
  | _ + 1, b, .alias name :: rest => do
    let number ← b.anchors.numbers.get? name
    return ⟨.alias number, b, rest⟩
  | fuel + 1, b, ts => do
    let (anchor, tag, ts) ← readProperties b ts
    let count := b.anchors.begun
    let b := { b with anchors := b.anchors.enter? anchor }
    let ⟨n, b, ts⟩ ← readContent block bare (anchor.isSome || tag.isSome) tag fuel b ts
    let anchors := if anchor.isSome then b.anchors.define count n else b.anchors
    return ⟨n, { b with anchors }, ts⟩

/-- A node behind its anchor and its tag. -/
def readContent (block bare marked : Bool) (tag : Option Tag) :
    Nat → Builder → List Token → Option (Built Node)
  | 0, _, _ => none
  | fuel + 1, b, ts =>
    match ts with
    | .scalar style text :: rest => some ⟨.scalar tag style text, b, rest⟩
    | .flowSequenceStart :: rest => do
      let ⟨items, b, rest⟩ ← readFlowItems true fuel b rest
      return ⟨.sequence tag items, b, rest⟩
    | .flowMappingStart :: rest => do
      let ⟨entries, b, rest⟩ ← readFlowEntries true fuel b rest
      return ⟨.mapping tag entries, b, rest⟩
    | .blockEntry :: _ =>
      if bare then do
        let ⟨items, b, rest⟩ ← readBareItems fuel b ts
        return ⟨.sequence tag items, b, rest⟩
      else if marked then some ⟨.blank tag, b, ts⟩
      else none
    | .blockSequenceStart :: rest =>
      if block then do
        let ⟨items, b, rest⟩ ← readBlockItems fuel b rest
        return ⟨.sequence tag items, b, rest⟩
      else if marked then some ⟨.blank tag, b, ts⟩
      else none
    | .blockMappingStart :: rest =>
      if block then do
        let ⟨entries, b, rest⟩ ← readBlockEntries fuel b rest
        return ⟨.mapping tag entries, b, rest⟩
      else if marked then some ⟨.blank tag, b, ts⟩
      else none
    | _ => if marked then some ⟨.blank tag, b, ts⟩ else none

/-- The items of a block sequence. -/
def readBlockItems : Nat → Builder → List Token → Option (Built (List Node))
  | 0, _, _ => none
  | fuel + 1, b, .blockEntry :: ts => do
    let ⟨n, b, ts⟩ ←
      if missingItem ts then some ⟨Node.blank none, b, ts⟩ else readNode true false fuel b ts
    let ⟨ns, b, ts⟩ ← readBlockItems fuel b ts
    return ⟨n :: ns, b, ts⟩
  | _ + 1, b, .blockEnd :: ts => some ⟨[], b, ts⟩
  | _ + 1, _, _ => none

/-- The items of a sequence that is not indented. -/
def readBareItems : Nat → Builder → List Token → Option (Built (List Node))
  | 0, _, _ => none
  | fuel + 1, b, .blockEntry :: ts => do
    let ⟨n, b, ts⟩ ←
      if missingBareItem ts then some ⟨Node.blank none, b, ts⟩
      else readNode true false fuel b ts
    let ⟨ns, b, ts⟩ ← readBareItems fuel b ts
    return ⟨n :: ns, b, ts⟩
  | _ + 1, b, ts => some ⟨[], b, ts⟩

/-- The entries of a block mapping. -/
def readBlockEntries : Nat → Builder → List Token → Option (Built (List (Node × Node)))
  | 0, _, _ => none
  | fuel + 1, b, .key :: ts => do
    let ⟨k, b, ts⟩ ←
      if missingMember ts then some ⟨Node.blank none, b, ts⟩ else readNode true true fuel b ts
    let ⟨v, b, ts⟩ ← readBlockValue fuel b ts
    let ⟨es, b, ts⟩ ← readBlockEntries fuel b ts
    return ⟨(k, v) :: es, b, ts⟩
  | _ + 1, b, .blockEnd :: ts => some ⟨[], b, ts⟩
  | _ + 1, _, _ => none

/-- The value behind a key of a block mapping. -/
def readBlockValue : Nat → Builder → List Token → Option (Built Node)
  | 0, _, _ => none
  | fuel + 1, b, .value :: ts =>
    if missingMember ts then some ⟨Node.blank none, b, ts⟩ else readNode true true fuel b ts
  | _ + 1, b, ts => some ⟨Node.blank none, b, ts⟩

/-- The items between brackets, from the first or from behind an item on. -/
def readFlowItems (first : Bool) : Nat → Builder → List Token → Option (Built (List Node))
  | 0, _, _ => none
  | _ + 1, b, .flowSequenceEnd :: ts => some ⟨[], b, ts⟩
  | fuel + 1, b, ts => do
    let ts ← if first then some ts else match ts with
      | .flowEntry :: ts => some ts
      | _ => none
    match ts with
    | .flowSequenceEnd :: ts => return ⟨[], b, ts⟩
    | .key :: ts =>
      let ⟨pair, b, ts⟩ ← readFlowPair fuel b ts
      let ⟨ns, b, ts⟩ ← readFlowItems false fuel b ts
      return ⟨.mapping none [pair] :: ns, b, ts⟩
    | ts =>
      let ⟨n, b, ts⟩ ← readNode false false fuel b ts
      let ⟨ns, b, ts⟩ ← readFlowItems false fuel b ts
      return ⟨n :: ns, b, ts⟩

/-- A key with its value between brackets.  Where the key is missing the next token is lost. -/
def readFlowPair : Nat → Builder → List Token → Option (Built (Node × Node))
  | 0, _, _ => none
  | fuel + 1, b, ts => do
    let ⟨k, b, ts⟩ ← match ts with
      | .value :: ts => some ⟨Node.blank none, b, ts⟩
      | .flowEntry :: ts => some ⟨Node.blank none, b, ts⟩
      | .flowSequenceEnd :: ts => some ⟨Node.blank none, b, ts⟩
      | ts => readNode false false fuel b ts
    match ts with
    | .value :: ts =>
      if missingPairValue ts then return ⟨(k, Node.blank none), b, ts⟩
      let ⟨v, b, ts⟩ ← readNode false false fuel b ts
      return ⟨(k, v), b, ts⟩
    | ts => return ⟨(k, Node.blank none), b, ts⟩

/-- The entries between braces, from the first or from behind an entry on. -/
def readFlowEntries (first : Bool) :
    Nat → Builder → List Token → Option (Built (List (Node × Node)))
  | 0, _, _ => none
  | _ + 1, b, .flowMappingEnd :: ts => some ⟨[], b, ts⟩
  | fuel + 1, b, ts => do
    let ts ← if first then some ts else match ts with
      | .flowEntry :: ts => some ts
      | _ => none
    match ts with
    | .flowMappingEnd :: ts => return ⟨[], b, ts⟩
    | .key :: ts =>
      let ⟨k, b, ts⟩ ←
        if missingFlowKey ts then some ⟨Node.blank none, b, ts⟩
        else readNode false false fuel b ts
      let ⟨v, b, ts⟩ ← match ts with
        | .value :: ts =>
          if missingFlowValue ts then some ⟨Node.blank none, b, ts⟩
          else readNode false false fuel b ts
        | ts => some ⟨Node.blank none, b, ts⟩
      let ⟨es, b, ts⟩ ← readFlowEntries false fuel b ts
      return ⟨(k, v) :: es, b, ts⟩
    | ts =>
      let ⟨k, b, ts⟩ ← readNode false false fuel b ts
      let ⟨es, b, ts⟩ ← readFlowEntries false fuel b ts
      return ⟨(k, Node.blank none) :: es, b, ts⟩

end

/-! ## Documents -/

/-- The tag handles that need no directive. -/
def standardHandles : List (String × Tag) := [("!", Tag.bare), ("!!", Tag.coreBase)]

/-- The tag handles that directives declare, and what follows the directives.  There may be one
version, and each handle may be declared once. -/
def readDirectives (versioned : Bool) (handles : List (String × Tag)) :
    List Token → Option (List (String × Tag) × List Token)
  | .version major minor :: ts =>
    if versioned || major ≠ 1 || (minor ≠ 1 && minor ≠ 2) then none
    else readDirectives true handles ts
  | .tagHandle handle expansion :: ts =>
    if handles.any fun h => h.1 = handle then none
    else readDirectives versioned (handles ++ [(handle, expansion)]) ts
  | ts => some (handles, ts)

/-- Whether a document is left empty before the next token. -/
def missingDocument : List Token → Bool
  | [] => true
  | .version .. :: _ => true
  | .tagHandle .. :: _ => true
  | .documentStart :: _ => true
  | .documentEnd :: _ => true
  | _ => false

/-- Whether a document begins with directives or its mark. -/
def beginsExplicitly : List Token → Bool
  | .version .. :: _ => true
  | .tagHandle .. :: _ => true
  | .documentStart :: _ => true
  | _ => false

/-- Whether only marks for the end of a document are left. -/
def onlyEnds (ts : List Token) : Bool := ts.all (· = .documentEnd)

/-- The only document of a list of tokens. -/
def Document.ofTokens? (ts : List Token) : Option Document := do
  if ts.isEmpty then return ⟨.void, .none⟩
  let (handles, ts, explicit) ←
    if beginsExplicitly ts then do
      let (handles, ts) ← readDirectives false [] ts
      match ts with
      | .documentStart :: ts => some (handles, ts, true)
      | _ => none
    else some ([], ts, false)
  let b : Builder := ⟨handles ++ standardHandles, .none⟩
  let ⟨n, b, ts⟩ ←
    if explicit && missingDocument ts then some ⟨Node.blank none, b, ts⟩
    else readNode true false (4 * ts.length + 8) b ts
  if onlyEnds ts then return ⟨n, b.anchors⟩ else none

/-- The only document of a text. -/
def Document.ofChars? (s : List Char) : Option Document := do
  Document.ofTokens? (← Token.ofChars? s)

end LifecycleGuard.Yaml
