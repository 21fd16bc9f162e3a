import LifecycleGuard.Action
import LifecycleGuard.Actor
import LifecycleGuard.Entity
import LifecycleGuard.Json.Printer

/-!
# Message templates

A template is a text with placeholders, names in braces.  `pieces` cuts a template into literal
characters and placeholders: a placeholder is an opening brace, a name without braces, and the
closing brace behind it.  An opening brace that meets another brace first, or none, is literal.

Rendering replaces each placeholder by what a look-up gives for its name, and by itself where
the look-up gives nothing.  What is put in is not looked at again.
-/

namespace LifecycleGuard.Template

/-- A part of a template. -/
inductive Piece where
  | literal (c : Char)
  | placeholder (name : List Char)
deriving DecidableEq

/-- The opening brace. -/
def opening : Char := Char.ofNat 0x7B

/-- The closing brace. -/
def closing : Char := Char.ofNat 0x7D

/-- Whether a character is one of the braces. -/
def isBrace (c : Char) : Bool := c = opening || c = closing

/-- The name of a placeholder, and what follows it, behind an opening brace. -/
def name? (s : List Char) : Option (List Char × List Char) :=
  match s.dropWhile (fun c => !isBrace c) with
  | c :: rest => if c = closing then some (s.takeWhile (fun c => !isBrace c), rest) else none
  | [] => none

theorem length_lt_of_name? {s name rest : List Char} (h : name? s = some (name, rest)) :
    rest.length < s.length := by
  unfold name? at h
  have hle : (s.dropWhile fun c => !isBrace c).length ≤ s.length :=
    (List.dropWhile_suffix _).length_le
  split at h
  · rename_i c r hd
    split at h
    · simp only [Option.some.injEq, Prod.mk.injEq] at h
      obtain ⟨_, rfl⟩ := h
      rw [hd] at hle
      exact hle
    · simp at h
  · simp at h

/-- Cut a template into its pieces. -/
def pieces (s : List Char) : List Piece :=
  match s with
  | [] => []
  | c :: rest =>
    if c = opening then
      match h : name? rest with
      | some (name, after) =>
        have := length_lt_of_name? h
        .placeholder name :: pieces after
      | none => .literal c :: pieces rest
    else .literal c :: pieces rest
termination_by s.length
decreasing_by
  · exact Nat.lt_succ_of_lt this
  · exact Nat.lt_succ_self rest.length
  · exact Nat.lt_succ_self rest.length

/-- The text of a piece. -/
def Piece.render (lookup : String → Option String) : Piece → List Char
  | .literal c => [c]
  | .placeholder name =>
    match lookup (String.ofList name) with
    | some value => value.toList
    | none => opening :: name ++ [closing]

/-- A template with its placeholders replaced. -/
def render (lookup : String → Option String) (template : String) : String :=
  String.ofList ((pieces template.toList).flatMap (Piece.render lookup))

/-- A value as it is put into a text: a string as it is, anything else in its written form. -/
def valueText : Json → String
  | .string s => s
  | j => j.render

/-- What the placeholders of a message stand for.  The five fixed names come before the
attributes of the entity. -/
def messageLookup (action : Action) (subject : Entity) (actor : Option Actor) (name : String) :
    Option String :=
  match name with
  | "actor" => some (Actor.describe actor)
  | "subject" => some subject.describe
  | "action" => some action.name
  | "subject_type" => some subject.type
  | "subject_id" => some subject.shownId
  | _ => (subject.attribute? name).map valueText

/-- The message that a template gives for an action on an entity. -/
def message (action : Action) (template : String) (subject : Entity) (actor : Option Actor) :
    String :=
  render (messageLookup action subject actor) template

end LifecycleGuard.Template
