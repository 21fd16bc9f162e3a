import LifecycleGuard.Proofs.Declaration.Grammar
import LifecycleGuard.Proofs.Symbol

/-!
# The names of a specification

Which names a declaration puts into its specification, and which of them are canonical.

**Where names come from.**  `Writes` says which tokens are written where a name is expected, and
`Supplies` which names the schema gives where every attribute is asked for.  The specification
mentions what the written tokens leave, and what the schema supplies as it stands there
(`mentions_iff`).

**Which are canonical.**  A written token that names nothing is declared all the same, and one with
blanks among its colons leaves a name with a colon in front.  All other tokens leave a canonical
name (`Symbol.Reads.canonical_iff`).
-/

namespace LifecycleGuard

namespace RuleSpec

/-! ## Where names come from -/

/-- The name of an item. -/
def Item.name? : Item → Option String
  | .attr name | .relation _ name | .only name | .except name => some name
  | .action _ | .association _ => none

/-- A specification mentions a name, as an attribute, a relation, or in its filter. -/
def Mentions (s : RuleSpec) (name : String) : Prop := ∃ i, i.name? = some name ∧ s.Holds i

/-- What stands under a key is read as names. -/
def Key.Naming (n : NameList) : Key → Prop
  | .actions => False
  | .attributes => ¬ AsksForAll n
  | .only | .except | .relations _ => True

/-- A token is written where a name is expected. -/
inductive Writes (tokens : List RuleToken) (token : String) : Prop where
  | symbol : RuleToken.symbol token ∈ tokens → (∀ a, ¬ Action.Named token a) →
      Writes tokens token
  | member {key : String} {n : NameList} {w : Key} : Closes tokens key n → w.Written key →
      w.Naming n → token ∈ n.names → Writes tokens token

/-- The schema supplies a name, as every attribute is asked for. -/
def Supplies (schema : Option Schema) (tokens : List RuleToken) (name : String) : Prop :=
  ∃ key n, Closes tokens key n ∧ Key.attributes.Written key ∧ AsksForAll n ∧
    ∃ s, schema = some s ∧ name ∈ s.attributes

/-- The names that stand under a key. -/
theorem exists_declares_iff {schema : Option Schema} {n : NameList} {w : Key} {name : String} :
    (∃ i, i.name? = some name ∧ w.Declares schema n i) ↔
      (w.Naming n ∧ ∃ token ∈ n.names, Symbol.bare token = name) ∨
        (w = .attributes ∧ AsksForAll n ∧ ∃ s, schema = some s ∧ name ∈ s.attributes) := by
  constructor
  · rintro ⟨i, hname, hi⟩
    cases hi with
    | action _ _ => cases hname
    | attr hnot htoken => exact .inl ⟨hnot, _, htoken, Option.some.inj hname⟩
    | every hall hs hmem =>
        cases hname
        exact .inr ⟨rfl, hall, _, hs, hmem⟩
    | only htoken => exact .inl ⟨trivial, _, htoken, Option.some.inj hname⟩
    | except htoken => exact .inl ⟨trivial, _, htoken, Option.some.inj hname⟩
    | association => cases hname
    | relation htoken => exact .inl ⟨trivial, _, htoken, Option.some.inj hname⟩
  · rintro (⟨hnaming, token, htoken, rfl⟩ | ⟨rfl, hall, s, hs, hmem⟩)
    · cases w with
      | actions => cases hnaming
      | attributes => exact ⟨_, rfl, .attr hnaming htoken⟩
      | only => exact ⟨_, rfl, .only htoken⟩
      | except => exact ⟨_, rfl, .except htoken⟩
      | relations k => exact ⟨_, rfl, .relation htoken⟩
    · exact ⟨_, rfl, .every hall hs hmem⟩

/-- The names that the tokens declare. -/
theorem exists_declares_tokens_iff {schema : Option Schema} {tokens : List RuleToken}
    {name : String} : (∃ i, i.name? = some name ∧ Declares schema tokens i) ↔
      (∃ token, Writes tokens token ∧ Symbol.bare token = name) ∨
        Supplies schema tokens name := by
  constructor
  · rintro ⟨i, hname, hi⟩
    cases hi with
    | symbol hmem hsymbol =>
        cases hsymbol with
        | action _ => cases hname
        | attr hnone => exact .inl ⟨_, .symbol hmem hnone, Option.some.inj hname⟩
    | member hcloses hw hdeclares =>
        obtain ⟨hnaming, token, htoken, hbare⟩ | ⟨rfl, hall, hsupply⟩ :=
          exists_declares_iff.mp ⟨i, hname, hdeclares⟩
        · exact .inl ⟨token, .member hcloses hw hnaming htoken, hbare⟩
        · exact .inr ⟨_, _, hcloses, hw, hall, hsupply⟩
  · rintro (⟨token, hwrites, rfl⟩ | ⟨key, n, hcloses, hw, hall, hsupply⟩)
    · cases hwrites with
      | symbol hmem hnone => exact ⟨_, rfl, .symbol hmem (.attr hnone)⟩
      | @member key n w hcloses hw hnaming htoken =>
          obtain ⟨i, hname, hdeclares⟩ :
              ∃ i : Item, i.name? = some (Symbol.bare token) ∧ w.Declares schema n i :=
            exists_declares_iff.mpr (.inl ⟨hnaming, token, htoken, rfl⟩)
          exact ⟨i, hname, .member hcloses hw hdeclares⟩
    · obtain ⟨i, hname, hdeclares⟩ := exists_declares_iff.mpr (.inr ⟨rfl, hall, hsupply⟩)
      exact ⟨i, hname, .member hcloses hw hdeclares⟩

variable {schema : Option Schema} {tokens : List RuleToken} {s : RuleSpec}

/-- What the specification mentions is what the written tokens leave and the schema supplies. -/
theorem mentions_iff (h : ofTokens schema tokens = .ok s) (name : String) :
    s.Mentions name ↔
      (∃ token, Writes tokens token ∧ Symbol.bare token = name) ∨ Supplies schema tokens name := by
  have hholds := (ofTokens_ok h).2
  simp only [Mentions, hholds]
  exact exists_declares_tokens_iff

/-! ## Which are canonical -/

/-- What holds of all names that are mentioned. -/
theorem forall_mentions_iff (h : ofTokens schema tokens = .ok s) (P : String → Prop) :
    (∀ name, s.Mentions name → P name) ↔
      (∀ token, Writes tokens token → P (Symbol.bare token)) ∧
        ∀ name, Supplies schema tokens name → P name := by
  simp only [mentions_iff h, or_imp, forall_and, forall_exists_index, and_imp]
  refine and_congr_left fun _ => ⟨fun hall token hwrites => hall _ token hwrites rfl, ?_⟩
  rintro hall _ token hwrites rfl
  exact hall token hwrites

/-- **The names of a specification.**  They are the names of the tokens that are written where a
name is expected, and those that the schema supplies.  They are all canonical if and only if no such
token is void or broken and the names that are supplied are canonical.  A second stripping leaves
them all unchanged if and only if no such token is broken and it leaves those unchanged that are
supplied.  Normalizing a word twice is normalizing it once if and only if the word is not broken. -/
theorem names_of_ofTokens (h : ofTokens schema tokens = .ok s) :
    (∀ name, s.Mentions name ↔
      (∃ token, Writes tokens token ∧ Symbol.bare token = name) ∨ Supplies schema tokens name) ∧
    (∀ token, Symbol.Reads token (Symbol.bare token)) ∧
    ((∀ name, s.Mentions name → Symbol.Canonical name) ↔
      (∀ token, Writes tokens token → ¬ Symbol.Void token.toList ∧ ¬ Symbol.Broken token.toList) ∧
        ∀ name, Supplies schema tokens name → Symbol.Canonical name) ∧
    ((∀ name, s.Mentions name → Symbol.bare name = name) ↔
      (∀ token, Writes tokens token → ¬ Symbol.Broken token.toList) ∧
        ∀ name, Supplies schema tokens name → Symbol.bare name = name) ∧
    ∀ token, Symbol.normalize (Symbol.normalize token) = Symbol.normalize token ↔
      ¬ Symbol.Broken token.toList := by
  refine ⟨mentions_iff h, Symbol.reads_bare, ?_, ?_, fun _ => Symbol.normalize_normalize_iff⟩
  · simp only [forall_mentions_iff h, (Symbol.reads_bare _).canonical_iff]
  · simp only [forall_mentions_iff h, (Symbol.reads_bare _).twice]

/-- An action, and an attribute with padding and a colon. -/
theorem names_of_ofTokens_title :
    ofTokens none [.symbol "update", .symbol " :title "] = .ok
      { empty with actions := .ofList [.update], attributes := .ofList ["title"] } ∧
    ∀ name, Mentions { empty with actions := .ofList [.update], attributes := .ofList ["title"] }
      name → Symbol.Canonical name := by
  have hok : ofTokens none [.symbol "update", .symbol " :title "] = .ok
      { empty with actions := .ofList [.update], attributes := .ofList ["title"] } := by
    decide +kernel
  refine ⟨hok, (names_of_ofTokens hok).2.2.1.mpr ⟨fun token hwrites => ?_, ?_⟩⟩
  · cases hwrites with
    | symbol hmem hnone =>
        obtain rfl | rfl : token = "update" ∨ token = " :title " := by simpa using hmem
        · exact absurd ((Action.parse?_eq_some_iff _ .update).mp (by decide +kernel)) (hnone _)
        · exact (Symbol.reads_bare _).canonical_iff.mp (by decide +kernel)
    | member hcloses _ _ _ =>
        obtain ⟨members, hlast, -⟩ := hcloses
        cases hlast
  · rintro name ⟨key, n, -, -, -, schema, hnone, -⟩
    cases hnone

/-- **Blanks among the colons leave a colon, and colons alone leave an empty name.**  Both are
accepted, although no attribute has such a name.  The colon goes when the name is taken a second
time. -/
theorem names_of_ofTokens_broken :
    (∃ s, ofTokens none [.symbol ": :title"] = .ok s ∧ s.Mentions ":title" ∧
      ¬ Symbol.Canonical ":title" ∧ Symbol.bare ":title" = "title") ∧
    (∃ s, ofTokens none [.symbol ":"] = .ok s ∧ s.Mentions "") ∧
    Symbol.normalize ": :Create" = ":create" ∧
      Symbol.normalize (Symbol.normalize ": :Create") = "create" := by
  refine ⟨⟨{ empty with attributes := .ofList [":title"] }, by decide +kernel,
    ⟨.attr ":title", rfl, ?_⟩, by decide +kernel, by decide +kernel⟩,
    ⟨{ empty with attributes := .ofList [""] }, by decide +kernel, ⟨.attr "", rfl, ?_⟩⟩,
    by decide +kernel, by decide +kernel⟩
  · show SortedSet.mem (.ofList [":title"]) ":title" = true
    decide
  · show SortedSet.mem (.ofList [""]) "" = true
    decide

end RuleSpec

end LifecycleGuard
