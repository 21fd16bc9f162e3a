import LifecycleGuard.Json.Numeral

/-!
# Reading strings

The characters of a JSON string, from behind the opening quotation mark to the closing one.
Escapes by number name units of sixteen bits; two of them, a high and a low surrogate, name one
character, and a surrogate without its partner names none.

As with numbers there are two readings.  `stringValue` produces the characters and insists on
paired surrogates; `skipString` only looks for the end of the string and lets lone surrogates
pass.
-/

namespace LifecycleGuard.Json

/-- The value of a hexadecimal digit. -/
def hexValue? (c : Char) : Option Nat :=
  if '0' ≤ c && c ≤ '9' then some (c.toNat - 48)
  else if 'a' ≤ c && c ≤ 'f' then some (c.toNat - 87)
  else if 'A' ≤ c && c ≤ 'F' then some (c.toNat - 55)
  else none

/-- The unit that four hexadecimal digits name. -/
def hexUnit? (a b c d : Char) : Option Nat := do
  let a ← hexValue? a
  let b ← hexValue? b
  let c ← hexValue? c
  let d ← hexValue? d
  return ((a * 16 + b) * 16 + c) * 16 + d

/-- Why fewer than four characters after an escape cannot be read: four bytes are looked for, so
a text that ends before is truncated even where it is also wrong. -/
def shortEscape (s : List Char) : ReadError :=
  if s.foldl (fun n c => n + c.utf8Size) 0 < 4 then .truncated else .malformed

/-- The character that a letter stands for after a backslash. -/
def letterEscape? (c : Char) : Option Char :=
  if c.toNat = 0x22 ∨ c = '\\' ∨ c = '/' then some c
  else if c = 'b' then some (Char.ofNat 8)
  else if c = 'f' then some (Char.ofNat 12)
  else if c = 'n' then some (Char.ofNat 10)
  else if c = 'r' then some (Char.ofNat 13)
  else if c = 't' then some (Char.ofNat 9)
  else none

/-- The text up to the closing quotation mark, and what follows it.  `high` is a high surrogate
that waits for its partner. -/
def stringValue (high : Option Nat) : List Char → Except ReadError (List Char × List Char)
  | [] => .error .truncated
  | '\\' :: rest =>
    match rest with
    | [] => .error .truncated
    | 'u' :: a :: b :: c :: d :: tail =>
      match hexUnit? a b c d with
      | none => .error .malformed
      | some n =>
        match high with
        | some h =>
          if 0xDC00 ≤ n ∧ n ≤ 0xDFFF then do
            let (cs, r) ← stringValue none tail
            return (Char.ofNat ((h - 0xD800) * 0x400 + (n - 0xDC00) + 0x10000) :: cs, r)
          else .error .malformed
        | none =>
          if 0xDC00 ≤ n ∧ n ≤ 0xDFFF then .error .malformed
          else if 0xD800 ≤ n ∧ n ≤ 0xDBFF then stringValue (some n) tail
          else do
            let (cs, r) ← stringValue none tail
            return (Char.ofNat n :: cs, r)
    | 'u' :: tail => .error (shortEscape tail)
    | e :: tail =>
      if high.isSome then .error .malformed
      else match letterEscape? e with
        | none => .error .malformed
        | some x => do
          let (cs, r) ← stringValue none tail
          return (x :: cs, r)
  | c :: rest =>
    if high.isSome then .error .malformed
    else if c.toNat = 0x22 then .ok ([], rest)
    else if c.toNat < 0x20 then .error .malformed
    else do
      let (cs, r) ← stringValue none rest
      return (c :: cs, r)

/-- What follows the closing quotation mark. -/
def skipString : List Char → Except ReadError (List Char)
  | [] => .error .truncated
  | '\\' :: rest =>
    match rest with
    | [] => .error .truncated
    | 'u' :: a :: b :: c :: d :: tail =>
      match hexUnit? a b c d with
      | none => .error .malformed
      | some _ => skipString tail
    | 'u' :: tail => .error (shortEscape tail)
    | e :: tail => if (letterEscape? e).isSome then skipString tail else .error .malformed
  | c :: rest =>
    if c.toNat = 0x22 then .ok rest
    else if c.toNat < 0x20 then .error .malformed
    else skipString rest

/-- A string at the head of a text, behind its opening quotation mark. -/
def readString (s : List Char) : Scalar String × List Char :=
  let value := (stringValue none s).map fun r => String.ofList r.1
  match skipString s with
  | .ok rest => (⟨value, .ok ()⟩, rest)
  | .error e => (⟨value, .error e⟩, [])

end LifecycleGuard.Json
