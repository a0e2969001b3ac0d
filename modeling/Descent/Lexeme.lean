import Descent.Leaf

/-!
# Lexemes

Names, numbers and quoted texts are written much the same in many languages.  Their patterns are
given here, each under a name of its own.
-/

namespace Descent

/-- A kind of word for which there is a parser. -/
inductive Lexeme where
  /-- A letter or an underscore, then letters, digits and underscores. -/
  | identifier
  /-- Digits behind an optional sign. -/
  | integer
  /-- An integer with an optional fraction and an optional exponent. -/
  | decimal
  /-- A text in double quotes, in which a backslash takes the character behind it along. -/
  | quoted
deriving DecidableEq, Repr

namespace Lexeme

/-- The name of the parser. -/
def name : Lexeme → Text
  | identifier => "identifier".toList
  | integer => "integer".toList
  | decimal => "decimal".toList
  | quoted => "quoted".toList

/-- The pattern. -/
def source : Lexeme → Text
  | identifier => "[A-Za-z_][A-Za-z0-9_]*".toList
  | integer => "[+-]?[0-9]+".toList
  | decimal => "[+-]?[0-9]+(\\.[0-9]+)?([eE][+-]?[0-9]+)?".toList
  | quoted => "\"([^\"\\\\]|\\\\.)*\"".toList

/-- The parser.  Every pattern here compiles. -/
def parser {M : Type} (l : Lexeme) : Except GrammarError (Parser M) :=
  (Parser.ofPattern l.source).map (.named · l.name)

end Lexeme

end Descent
