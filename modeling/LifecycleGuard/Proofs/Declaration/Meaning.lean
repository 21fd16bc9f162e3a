import LifecycleGuard.Declaration.Grammar

/-!
# What declarations mean

What a list of tokens declares, said token by token and without collecting anything.

**Items.**  An `Item` is one thing that a specification can hold.

**Tokens.**  `Declares` says which tokens declare which items: a symbol declares an action or else an
attribute, and a member of the closing mapping declares what its key says of its names.

**Faults.**  `Fault` says for each error what it finds wrong with the tokens, and `WellFormed` is the
grammar.
-/

namespace LifecycleGuard

/-! ## Words -/

namespace Action

/-- The words for actions. -/
def words : List (String × Action) :=
  [("create", .create), ("find", .find), ("read", .find), ("update", .update),
    ("destroy", .destroy), ("delete", .destroy)]

/-- A token is some spelling of a word for an action. -/
def Named (token : String) (a : Action) : Prop := (Symbol.normalize token, a) ∈ words

theorem parse?_eq_some_iff (token : String) (a : Action) :
    parse? token = some a ↔ Named token a := by
  unfold parse? Named ofWord?
  generalize Symbol.normalize token = w
  split <;> simp_all [words, eq_comm]

theorem parse?_eq_none_iff (token : String) : parse? token = none ↔ ∀ a, ¬ Named token a := by
  simp [Option.eq_none_iff_forall_ne_some, parse?_eq_some_iff]

end Action

namespace AssociationAction

theorem parse?_eq_some_iff (token : String) (k : AssociationAction) :
    parse? token = some k ↔ Symbol.normalize token = k.name := by
  unfold parse? ofName? all
  generalize Symbol.normalize token = w
  cases k <;> simp [List.find?_cons, name] <;> grind

theorem parse?_eq_none_iff (token : String) :
    parse? token = none ↔ ∀ k : AssociationAction, Symbol.normalize token ≠ k.name := by
  simp [Option.eq_none_iff_forall_ne_some, parse?_eq_some_iff]

end AssociationAction

namespace RuleSpec

/-! ## What is declared -/

/-- One thing that a specification can hold. -/
inductive Item where
  | action (a : Action)
  | attr (name : String)
  /-- An association action is declared for some relations, maybe none. -/
  | association (k : AssociationAction)
  | relation (k : AssociationAction) (name : String)
  | only (name : String)
  | except (name : String)

/-- A specification holds an item. -/
def Holds (s : RuleSpec) : Item → Prop
  | .action a => SortedSet.mem s.actions a = true
  | .attr name => SortedSet.mem s.attributes name = true
  | .association k => s.associations.contains k = true
  | .relation k name => name ∈ s.relations k
  | .only name => SortedSet.mem s.filter.only name = true
  | .except name => SortedSet.mem s.filter.except name = true

/-- What a symbol declares: an action if it names one, and otherwise an attribute. -/
inductive SymbolDeclares (token : String) : Item → Prop where
  | action {a : Action} : Action.Named token a → SymbolDeclares token (.action a)
  | attr : (∀ a, ¬ Action.Named token a) → SymbolDeclares token (.attr (Symbol.bare token))

/-- The keys of the closing mapping. -/
inductive Key where
  | actions
  | attributes
  | only
  | except
  | relations (k : AssociationAction)

/-- How keys are written.  A key for relations is normalized twice, the others once. -/
def Key.Written : Key → String → Prop
  | .actions, key => Symbol.normalize key = "actions"
  | .attributes, key => Symbol.normalize key = "attributes"
  | .only, key => Symbol.normalize key = "only"
  | .except, key => Symbol.normalize key = "except"
  | .relations k, key => Symbol.normalize (Symbol.normalize key) = k.name

/-- The names under a key ask for every attribute. -/
def AsksForAll (n : NameList) : Prop := ∃ word, n.names = [word] ∧ Symbol.normalize word = "all"

/-- What the names under a key declare. -/
inductive Key.Declares (schema : Option Schema) (n : NameList) : Key → Item → Prop where
  | action {token : String} {a : Action} : token ∈ n.names → Action.Named token a →
      Declares schema n .actions (.action a)
  | attr {token : String} : ¬ AsksForAll n → token ∈ n.names →
      Declares schema n .attributes (.attr (Symbol.bare token))
  | every {s : Schema} {name : String} : AsksForAll n → schema = some s → name ∈ s.attributes →
      Declares schema n .attributes (.attr name)
  | only {token : String} : token ∈ n.names → Declares schema n .only (.only (Symbol.bare token))
  | except {token : String} : token ∈ n.names →
      Declares schema n .except (.except (Symbol.bare token))
  | association {k : AssociationAction} : Declares schema n (.relations k) (.association k)
  | relation {k : AssociationAction} {token : String} : token ∈ n.names →
      Declares schema n (.relations k) (.relation k (Symbol.bare token))

/-- The tokens are closed by a mapping that has these names under this key. -/
def Closes (tokens : List RuleToken) (key : String) (n : NameList) : Prop :=
  ∃ members, tokens.getLast? = some (.mapping members) ∧ members.get? key = some n

/-- What a list of tokens declares. -/
inductive Declares (schema : Option Schema) (tokens : List RuleToken) (i : Item) : Prop where
  | symbol {token : String} : RuleToken.symbol token ∈ tokens → SymbolDeclares token i →
      Declares schema tokens i
  | member {key : String} {n : NameList} {w : Key} : Closes tokens key n → w.Written key →
      w.Declares schema n i → Declares schema tokens i

/-! ## What is wrong -/

/-- What is wrong with a member of the closing mapping. -/
inductive MemberFault (key : String) (n : NameList) : DeclarationError → Prop where
  | action {token : String} : Key.actions.Written key → token ∈ n.names →
      (∀ a, ¬ Action.Named token a) → MemberFault key n (.unknownAction token)
  | key : (∀ w : Key, ¬ w.Written key) → MemberFault key n (.unknownKey (Symbol.normalize key))

/-- What is wrong with a list of tokens. -/
inductive Fault (schema : Option Schema) (tokens : List RuleToken) : DeclarationError → Prop where
  | misplaced {members : SortedMap String NameList} : .mapping members ∈ tokens.dropLast →
      Fault schema tokens .misplacedMapping
  | member {key : String} {n : NameList} {e : DeclarationError} : Closes tokens key n →
      MemberFault key n e → Fault schema tokens e
  | nothing : (∀ a, ¬ Declares schema tokens (.action a)) →
      (∀ name, ¬ Declares schema tokens (.attr name)) →
      (∀ k name, ¬ Declares schema tokens (.relation k name)) → Fault schema tokens .emptyRule
  | conflict {name name' : String} : Declares schema tokens (.only name) →
      Declares schema tokens (.except name') → Fault schema tokens .conflictingFilter
  | unlisted {s : Schema} {names : List String} : schema = some s → names ≠ [] →
      names.Pairwise (fun a b => compare a b = .lt) →
      (∀ name, name ∈ names ↔ Declares schema tokens (.attr name) ∧ name ∉ s.attributes) →
      Fault schema tokens (.unknownAttributes names)

/-- The grammar of declarations. -/
structure WellFormed (schema : Option Schema) (tokens : List RuleToken) : Prop where
  /-- No token but the last is a mapping. -/
  closing : ∀ members, RuleToken.mapping members ∉ tokens.dropLast
  /-- Every name under `actions` names an action. -/
  actions : ∀ key n, Closes tokens key n → Key.actions.Written key →
    ∀ token ∈ n.names, ∃ a, Action.Named token a
  /-- There are no other keys. -/
  keys : ∀ key n, Closes tokens key n → ∃ w : Key, w.Written key
  /-- An action, an attribute or a relation is declared. -/
  something : (∃ a, Declares schema tokens (.action a)) ∨
    (∃ name, Declares schema tokens (.attr name)) ∨
    ∃ k name, Declares schema tokens (.relation k name)
  /-- Not both `only` and `except` name something. -/
  filter : ¬ ((∃ name, Declares schema tokens (.only name)) ∧
    ∃ name, Declares schema tokens (.except name))
  /-- The schema, if there is one, lists every attribute. -/
  listed : ∀ s, schema = some s → ∀ name, Declares schema tokens (.attr name) →
    name ∈ s.attributes

/-- Nothing is wrong with what is well formed. -/
theorem WellFormed.no_fault {schema : Option Schema} {tokens : List RuleToken}
    (h : WellFormed schema tokens) (e : DeclarationError) : ¬ Fault schema tokens e := by
  intro hfault
  cases hfault with
  | misplaced hmem => exact h.closing _ hmem
  | member hcloses hmember =>
      cases hmember with
      | action hkey hmem hunknown =>
          obtain ⟨a, ha⟩ := h.actions _ _ hcloses hkey _ hmem
          exact hunknown a ha
      | key hunknown =>
          obtain ⟨w, hw⟩ := h.keys _ _ hcloses
          exact hunknown w hw
  | nothing hactions hattributes hrelations =>
      rcases h.something with ⟨a, ha⟩ | ⟨name, hname⟩ | ⟨k, name, hname⟩
      · exact hactions a ha
      · exact hattributes name hname
      · exact hrelations k name hname
  | conflict honly hexcept => exact h.filter ⟨⟨_, honly⟩, _, hexcept⟩
  | @unlisted s names hs hne _ hnames =>
      obtain ⟨name, hmem⟩ := List.exists_mem_of_ne_nil names hne
      obtain ⟨hdeclares, hout⟩ := (hnames name).mp hmem
      exact hout (h.listed s hs name hdeclares)

end RuleSpec

end LifecycleGuard
