import Descent.Lexeme

/-!
# Recipes

A recipe says how a parser is built.  It may refer to parsers that are kept under names, and takes
each as it is when the recipe is followed.  Patterns are compiled on the way, so a recipe may fail.
-/

namespace Descent

/-- How a parser is built. -/
inductive Recipe (M : Type) where
  /-- The parser of a word. -/
  | literal (word : Text)
  /-- The parser of a pattern. -/
  | pattern (source : Text)
  /-- The parser of an expression that is compiled first. -/
  | compiled (source : Text) (caseless : Bool)
  /-- The parser of a lexeme. -/
  | lexeme (l : Lexeme)
  /-- The parser that a function is. -/
  | custom (expected : Text) (match? : Text → Except ParseError (Match M))
  /-- The parser kept under a name. -/
  | ref (id : Text)
  /-- One parser, then the other. -/
  | seq (p q : Recipe M)
  /-- One parser, or else the other. -/
  | choice (p q : Recipe M)
  /-- A parser with its output converted. -/
  | map (p : Recipe M) (f : Value M → Except Abort (Value M))
  /-- A parser with its output converted, where the conversion may reject it. -/
  | tryMap (p : Recipe M) (f : Value M → Except Refusal (Value M))
  /-- A parser, or else nothing. -/
  | optional (p : Recipe M)
  /-- A parser once or more. -/
  | many (p : Recipe M)
  /-- A parser once or more, with a separator between. -/
  | sepBy (p : Recipe M) (sep : Text)
  /-- A parser under a name. -/
  | named (p : Recipe M) (name : Text)

/-- Why a step fails. -/
inductive Problem where
  /-- A parser or a grammar cannot be built. -/
  | grammar (e : GrammarError)
  /-- Nothing is kept under the name. -/
  | missing (id : Text)
deriving DecidableEq, Repr

namespace Recipe

variable {M : Type}

/-- Builds the parser of a recipe, with the parsers that are kept.  Parts are built from the left
to the right, and the first problem is the one reported. -/
def build (kept : Text → Option (Parser M)) : Recipe M → Except Problem (Parser M)
  | literal word => .ok (.literal word)
  | pattern source => (Parser.ofPattern source).mapError .grammar
  | compiled source caseless =>
    match Regex.compile source caseless with
    | .ok regex => (Parser.ofRegex regex).mapError .grammar
    | .error fault => .error (.grammar (.invalidPattern fault))
  | lexeme l => l.parser.mapError .grammar
  | custom expected match? => .ok (.custom expected match?)
  | ref id =>
    match kept id with
    | some p => .ok p
    | none => .error (.missing id)
  | seq p q => do .ok (.seq (← p.build kept) (← q.build kept))
  | choice p q => do .ok (.choice (← p.build kept) (← q.build kept))
  | map p f => do .ok (.map (← p.build kept) f)
  | tryMap p f => do .ok (.tryMap (← p.build kept) f)
  | optional p => do .ok (.optional (← p.build kept))
  | many p => do .ok (.many (← p.build kept))
  | sepBy p sep => do .ok (.sepBy (← p.build kept) sep)
  | named p name => do .ok (.named (← p.build kept) name)

end Recipe

end Descent
