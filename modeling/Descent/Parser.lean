import Descent.Error
import Descent.Regex

/-!
# Parsers

A parser is a tree.  Its leaves match literal words, regular expressions, or whatever a function of
the grammar's author matches; its inner nodes put parsers together.  A *rule* stands for a parser
that is given later, so a rule may occur in its own definition.

A parser has a description of what it matches (`expected`), which errors cite, and may have a name.
Its *label* is the name, or else the description.  Labels are for the log and never change what a
parser does.

`rules` lists the rules that a parser refers to, each once, in the order in which they first occur.
It does not look into definitions.
-/

namespace Descent

/-! ## Rules, matches and conversions -/

/-- A declared rule.  Rules of the same name are told apart by their number. -/
structure Rule where
  /-- The number of the declaration. -/
  id : Nat
  /-- The name that was declared. -/
  name : Text
deriving DecidableEq, Repr, Inhabited

/-- A successful match. -/
structure Match (M : Type) where
  /-- What is put out. -/
  output : Value M
  /-- The text that is left. -/
  rest : Text
deriving Inhabited

namespace Match

variable {M : Type}

/-- The match that reads nothing and puts out nothing. -/
def empty (rest : Text) : Match M := ⟨.unit, rest⟩

/-- Whether the whole text has been read. -/
def isComplete (m : Match M) : Bool := m.rest.isEmpty

end Match

/-- A conversion that gives up, with a message.  The parse that it belongs to has no result. -/
structure Abort where
  /-- What the conversion says. -/
  message : Text
deriving DecidableEq, Repr

/-- A conversion that does not give a value. -/
inductive Refusal where
  /-- The value cannot be converted, for a reason. -/
  | reject (reason : Text)
  /-- The conversion gives up. -/
  | abort (a : Abort)
deriving DecidableEq, Repr

/-! ## Parsers -/

/-- A parser whose tokens are converted into values of `M`. -/
inductive Parser (M : Type) where
  /-- Skips blanks and matches a word. -/
  | literal (word : Text)
  /-- Skips blanks and matches an expression, which `source` describes. -/
  | pattern (source : Text) (regex : Regex)
  /-- Matches what a function matches. -/
  | custom (expected : Text) (match? : Text → Except ParseError (Match M))
  /-- Matches what the definition of a rule matches. -/
  | rule (r : Rule)
  /-- Matches the first, then the second. -/
  | seq (p q : Parser M)
  /-- Matches the first, or else the second. -/
  | choice (p q : Parser M)
  /-- Converts the output. -/
  | map (p : Parser M) (f : Value M → Except Abort (Value M))
  /-- Converts the output, where the conversion may reject it. -/
  | tryMap (p : Parser M) (f : Value M → Except Refusal (Value M))
  /-- Matches the parser, or else nothing. -/
  | optional (p : Parser M)
  /-- Matches the parser once or more. -/
  | many (p : Parser M)
  /-- Matches the parser once or more, with a separator between. -/
  | sepBy (p : Parser M) (sep : Text)
  /-- The parser under a name. -/
  | named (p : Parser M) (name : Text)

namespace Parser

variable {M : Type}

/-! ## Descriptions -/

/-- What the parser matches, in words. -/
def expected : Parser M → Text
  | literal word => word
  | pattern source _ => source
  | custom e _ => e
  | rule r => r.name
  | seq p q => p.expected ++ " + ".toList ++ q.expected
  | choice p q => p.expected ++ " | ".toList ++ q.expected
  | map p _ => p.expected
  | tryMap p _ => p.expected
  | optional p => p.expected ++ "(optional)".toList
  | many p => "(".toList ++ p.expected ++ ")+".toList
  | sepBy p sep => "(".toList ++ p.expected ++ " sep \"".toList ++ sep ++ "\")+".toList
  | named p _ => p.expected

/-- The name, if there is one.  Conversion and option pass a name on. -/
def name? : Parser M → Option Text
  | rule r => some r.name
  | map p _ => p.name?.map ("mapped ".toList ++ ·)
  | tryMap p _ => p.name?.map ("mapped ".toList ++ ·)
  | optional p => p.name?.map ("optional ".toList ++ ·)
  | named _ name => some name
  | _ => none

/-- The name, or else the description. -/
def label (p : Parser M) : Text := p.name?.getD p.expected

/-- The form that names the fields. -/
def debugText (p : Parser M) : Text :=
  debugRecord "Parser"
    [("name", match p.name? with
      | some name => debugCall "Some" name.quoted
      | none => "None".toList),
     ("expected", p.expected.quoted)]

instance : Debug (Parser M) := ⟨debugText⟩

/-! ## Rules -/

/-- Two lists of rules as one, without those of the second that are there already. -/
def mergeRules : List Rule → List Rule → List Rule
  | rs, [] => rs
  | [], ss => ss
  | rs, ss => ss.foldl (fun rs s => if rs.contains s then rs else rs ++ [s]) rs

/-- The rules that the parser refers to, each once, in the order in which they first occur. -/
def rules : Parser M → List Rule
  | literal _ => []
  | pattern _ _ => []
  | custom _ _ => []
  | rule r => [r]
  | seq p q => mergeRules p.rules q.rules
  | choice p q => mergeRules p.rules q.rules
  | map p _ => p.rules
  | tryMap p _ => p.rules
  | optional p => p.rules
  | many p => p.rules
  | sepBy p _ => p.rules
  | named p _ => p.rules

/-- The rule that the parser is, perhaps under another name. -/
def asRule? : Parser M → Option Rule
  | rule r => some r
  | named p _ => p.asRule?
  | _ => none

end Parser

end Descent
