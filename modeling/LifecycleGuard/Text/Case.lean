import LifecycleGuard.Text.CaseTable

/-!
# Lower-casing

The full, language-independent mapping to lower case.  It differs from a character-by-character
table in two places: the capital I with a dot becomes two characters, and a capital sigma
becomes the final form where it ends a word.  "Ends a word" is the usual condition: skipping
characters that case ignores, a cased character stands before the sigma and none stands after.

ASCII is decided without a table, so that lower-casing a plain name evaluates at once.
-/

namespace LifecycleGuard.Text

/-- Whether a character has case. -/
def isCased (c : Char) : Bool := CaseTable.within CaseTable.casedRanges c.toNat

/-- Whether a character is passed over when the case around it is looked at. -/
def isCaseIgnorable (c : Char) : Bool := CaseTable.within CaseTable.ignorableRanges c.toNat

/-- The lower-case form of one character, apart from the sigma rule. -/
def lowerChar (c : Char) : List Char :=
  if c.toNat < 0x80 then [c.toLower]
  else if c.toNat = 0x130 then ['i', Char.ofNat 0x307]
  else match CaseTable.lowerRuns.findSome? (·.shift? c.toNat) with
    | some d => [Char.ofNat (c.toNat + d).toNat]
    | none => [c]

/-- Whether the first character that case does not ignore is a cased one. -/
def meetsCased (s : List Char) : Bool :=
  match s.dropWhile isCaseIgnorable with
  | [] => false
  | c :: _ => isCased c

/-- Lower-case `rest`, where `before` is what stands before it, nearest character first. -/
def lowerAfter (before : List Char) : List Char → List Char
  | [] => []
  | c :: rest =>
    let form := if c = 'Σ' then
        if meetsCased before && !meetsCased rest then ['ς'] else ['σ']
      else lowerChar c
    form ++ lowerAfter (c :: before) rest

/-- A text in lower case. -/
def lowered (s : List Char) : List Char := lowerAfter [] s

end LifecycleGuard.Text
