import Descent.Value

/-!
# Errors

A parse fails with one error.  A *mismatch* says that the text is not what was expected, and the
combinators around it may try something else.  A *fault* is the grammar's doing, a rule without a
definition or a conversion that rejects its value; nothing else is tried and the fault is the
result of the whole parse.

Every error but one carries the description of what was expected and the text that was found.
-/

namespace Descent

/-- Why a parse fails. -/
inductive ParseError where
  /-- A literal is not there. -/
  | literal (expected actual : Text)
  /-- A pattern does not match. -/
  | pattern (expected actual : Text)
  /-- No alternative matches. -/
  | choice (expected actual : Text)
  /-- A repetition has no first element. -/
  | repetition (expected actual : Text)
  /-- A rule has no definition. -/
  | unbound (name : Text)
  /-- A conversion rejects its value. -/
  | mapping (expected actual reason : Text)
deriving DecidableEq, Repr

namespace ParseError

/-- Whether the error is a mismatch, after which something else may be tried. -/
def isRecoverable : ParseError → Bool
  | unbound _ => false
  | mapping _ _ _ => false
  | _ => true

/-- What was expected; for a rule without a definition its name. -/
def expected : ParseError → Text
  | literal e _ | pattern e _ | choice e _ | repetition e _ | mapping e _ _ => e
  | unbound name => name

/-- The text that was found. -/
def actual : ParseError → Text
  | literal _ a | pattern _ a | choice _ a | repetition _ a | mapping _ a _ => a
  | unbound _ => []

/-- The error in words. -/
def message : ParseError → Text
  | literal e a => "Expected \"".toList ++ e ++ "\", got \"".toList ++ a ++ "\".".toList
  | pattern e a => "Expected match on '".toList ++ e ++ "', got '".toList ++ a ++ "'.".toList
  | choice e a => "Expected <".toList ++ e ++ ">, got \"".toList ++ a ++ "\".".toList
  | repetition e a =>
    "Expected one or more of ".toList ++ e ++ ", got \"".toList ++ a ++ "\".".toList
  | unbound name => "Rule '".toList ++ name ++ "' was used before it was defined.".toList
  | mapping e a r =>
    "Mapping ".toList ++ e ++ " failed on \"".toList ++ a ++ "\": ".toList ++ r ++ ".".toList

/-- The form of an error that names its fields. -/
def debugText : ParseError → Text
  | literal e a => fields "Literal" e a []
  | pattern e a => fields "Pattern" e a []
  | choice e a => fields "Choice" e a []
  | repetition e a => fields "Repetition" e a []
  | unbound name => debugRecord "Unbound" [("name", name.quoted)]
  | mapping e a r => fields "Mapping" e a [("reason", r.quoted)]
where
  /-- A record of what was expected, what was found, and other fields. -/
  fields (kind : String) (e a : Text) (others : List (String × Text)) : Text :=
    debugRecord kind ([("expected", e.quoted), ("actual", a.quoted)] ++ others)

instance : Debug ParseError := ⟨debugText⟩

end ParseError

end Descent
