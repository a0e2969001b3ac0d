import Descent.Grammar

/-!
# Leaves

The matchers that grammars are made of.  A literal and a pattern skip the blanks in front; a
literal puts out nothing and a pattern the text that it matches.

A pattern is the text of an expression.  It is compiled with the start of the text required in
front of it and a group around it, both put on as text.  So an expression whose parentheses close
that group and open another is read as the whole says: `a)|(?:b` matches an `a` at the start or a
`b` anywhere.  What stands before a match that does not start at the front is skipped.
-/

namespace Descent

namespace Leaf

variable {M : Type}

/-- Matches a word behind blanks. -/
def literal (word t : Text) : Except ParseError (Match M) :=
  match Text.after? word (Text.trimStart t) with
  | some rest => .ok ⟨.unit, rest⟩
  | none => .error (.literal word (Text.trimStart t))

/-- Matches an expression behind blanks. -/
def pattern (source : Text) (regex : Regex) (t : Text) : Except ParseError (Match M) :=
  match regex.find? (Text.trimStart t) with
  | some (token, rest) => .ok ⟨.token token, rest⟩
  | none => .error (.pattern source (Text.trimStart t))

/-- Takes so many characters, blanks included, and puts out what is made of them. -/
def take (expected : Text) (n : Nat) (output : Text → Value M) (t : Text) :
    Except ParseError (Match M) :=
  if n ≤ t.length then .ok ⟨output (t.take n), t.drop n⟩ else .error (.pattern expected t)

end Leaf

namespace Parser

variable {M : Type}

/-! ## Patterns -/

/-- The pattern that a text writes. -/
def ofPattern (source : Text) : Except GrammarError (Parser M) :=
  match Regex.compile (Regex.anchored source) with
  | .ok regex => .ok (.pattern source regex)
  | .error fault => .error (.invalidPattern fault)

/-- The pattern that the text of a compiled expression writes.  Only the text is taken over. -/
def ofRegex (regex : Regex) : Except GrammarError (Parser M) := ofPattern regex.source

end Parser

end Descent
