import Descent.Text.Quoted

/-!
# Clipped texts

A log line shows a text in a field of fixed width between two bars.  The field is plain ASCII: all
else is escaped, and so are the backslash, the tabulator and the two characters that break lines.
Quotes stand for themselves.  A text that does not fit is cut.
-/

namespace Descent.Text

/-- How many characters of a text a field shows. -/
def clipWidth : Nat := 33

/-- What a character is written as in plain ASCII, both kinds of quotes escaped. -/
def asciiEscaped (c : Char) : Text :=
  match c with
  | '\t' => ['\\', 't']
  | '\r' => ['\\', 'r']
  | '\n' => ['\\', 'n']
  | '\'' => ['\\', '\'']
  | '"' => ['\\', '"']
  | '\\' => ['\\', '\\']
  | c => if isPlainAscii c then [c] else codeEscape c

/-- The text with every backslash before `q` taken away, read from the left. -/
def unescape (q : Char) : Text → Text
  | [] => []
  | [c] => [c]
  | c :: d :: t => if c = '\\' ∧ d = q then q :: unescape q t else c :: unescape q (d :: t)

/-- The characters between the bars of a field. -/
def clip (t : Text) : Text :=
  (unescape '\'' (unescape '"' ((t.take clipWidth).flatMap asciiEscaped))).take clipWidth

/-- A text as a field of fixed width, between bars and filled up with spaces. -/
def clipped (t : Text) : Text := padEnd (clipWidth + 2) (['|'] ++ clip t ++ ['|'])

end Descent.Text
