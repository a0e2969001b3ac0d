import Descent.Parser

/-!
# Rule books and grammars

A *rule book* says which rules have been declared and which of them have a definition.  A rule is
defined once; later attempts fail and change nothing, so what a parser finds in the book today it
finds in every later book.

A parser is *sealed* when every rule that it refers to, directly or through definitions, has a
definition.  Sealing walks through the rules and their definitions and stops at the first rule that
has none.
-/

namespace Descent

/-! ## Errors of construction -/

/-- Why a parser or a grammar cannot be built. -/
inductive GrammarError where
  /-- A pattern is no regular expression. -/
  | invalidPattern (fault : Regex.Fault)
  /-- The rule has a definition. -/
  | alreadyDefined (name : Text)
  /-- The parser is no rule. -/
  | notDeclared (name : Text)
  /-- The rule has no definition. -/
  | undefined (name : Text)
deriving DecidableEq, Repr

/-! ## Rule books -/

/-- The rules declared so far and their definitions. -/
structure RuleBook (M : Type) where
  /-- The number of declarations. -/
  declared : Nat
  /-- The definitions, the latest first. -/
  definitions : List (Rule × Parser M)

namespace RuleBook

variable {M : Type}

/-- The book without rules. -/
def empty : RuleBook M := ⟨0, []⟩

/-- The definition of a rule. -/
def definition? (b : RuleBook M) (r : Rule) : Option (Parser M) :=
  (b.definitions.find? fun d => d.1 == r).map Prod.snd

/-- Declares a rule, which differs from all rules declared before. -/
def declare (b : RuleBook M) (name : Text) : Rule × RuleBook M :=
  (⟨b.declared, name⟩, { b with declared := b.declared + 1 })

/-- Defines the rule that a parser is. -/
def define (b : RuleBook M) (handle definition : Parser M) : Except GrammarError (RuleBook M) :=
  match handle.asRule? with
  | none => .error (.notDeclared handle.label)
  | some r =>
    match b.definition? r with
    | some _ => .error (.alreadyDefined r.name)
    | none => .ok { b with definitions := (r, definition) :: b.definitions }

/-- Whether a parser has a definition.  Only a rule may lack one. -/
def isDefined (b : RuleBook M) (p : Parser M) : Bool :=
  match p.asRule? with
  | some r => (b.definition? r).isSome
  | none => true

/-! ## Sealing -/

/-- Walks through the rules in `pending`, next first, and on through their definitions, past those
already in `seen`.  The result is the rules met.  A definition adds to `pending` when its rule is
first met, so the number of rules that definitions refer to bounds the rounds. -/
def walk (b : RuleBook M) : (fuel : Nat) → (pending seen : List Rule) →
    Except GrammarError (List Rule)
  | 0, _, seen => .ok seen
  | _, [], seen => .ok seen
  | fuel + 1, r :: pending, seen =>
    if seen.contains r then b.walk fuel pending seen
    else
      match b.definition? r with
      | none => .error (.undefined r.name)
      | some d => b.walk fuel (d.rules.reverse ++ pending) (r :: seen)

/-- The number of rules that a walk from a parser may come to. -/
def walkFuel (b : RuleBook M) (p : Parser M) : Nat :=
  p.rules.length + (b.definitions.flatMap fun d => d.2.rules).length

/-- The rules that a parser refers to, directly or through definitions, if all have one.  The rule
that occurs last comes first. -/
def reachable (b : RuleBook M) (p : Parser M) : Except GrammarError (List Rule) :=
  b.walk (b.walkFuel p) p.rules.reverse []

end RuleBook

/-- A parser that has been sealed. -/
structure Grammar (M : Type) where
  /-- The parser. -/
  root : Parser M
  /-- The rules that the parser refers to, directly or through definitions. -/
  rules : List Rule

namespace Grammar

variable {M : Type}

/-- The form that names the root. -/
def debugText (g : Grammar M) : Text := debugCall "Grammar" g.root.debugText

instance : Debug (Grammar M) := ⟨debugText⟩

end Grammar

/-- Seals a parser. -/
def RuleBook.seal {M : Type} (b : RuleBook M) (p : Parser M) : Except GrammarError (Grammar M) :=
  (b.reachable p).map fun rules => ⟨p, rules⟩

namespace GrammarError

/-- The error in words; that of a pattern only says that there is one. -/
def message : GrammarError → Text
  | invalidPattern _ => "invalid pattern".toList
  | alreadyDefined name => "rule '".toList ++ name ++ "' is already defined".toList
  | notDeclared name => "parser '".toList ++ name ++ "' was not declared as a recursive rule".toList
  | undefined name => "rule '".toList ++ name ++ "' is referenced but never defined".toList

/-- The form of an error that names its fields. -/
def debugText : GrammarError → Text
  | invalidPattern _ => "InvalidPattern".toList
  | alreadyDefined name => debugRecord "AlreadyDefined" [("name", name.quoted)]
  | notDeclared name => debugRecord "NotDeclared" [("name", name.quoted)]
  | undefined name => debugRecord "Undefined" [("name", name.quoted)]

instance : Debug GrammarError := ⟨debugText⟩

end GrammarError

end Descent
