import Descent.Regex.Fault
import Descent.Text

/-!
# Flags

Flags change how the rest of a group is read.  They are set in a group of their own, `(?i)`, or for
one group, `(?i:…)`, and those behind a minus sign are cleared.  Where `verbose` is set, blanks and
comments between the parts of an expression are skipped; a comment goes from a number sign to the
end of the line.
-/

namespace Descent.Regex

/-- How an expression is read. -/
structure Flags where
  /-- Characters match up to case. -/
  caseless : Bool := false
  /-- The places `^` and `$` are at every line and not only at the ends of the text. -/
  multiline : Bool := false
  /-- The dot matches the end of a line. -/
  dotAll : Bool := false
  /-- A repetition is lazy, and one marked by `?` is greedy. -/
  swapGreed : Bool := false
  /-- Classes go beyond ASCII. -/
  unicode : Bool := true
  /-- A carriage return ends a line too. -/
  crlf : Bool := false
  /-- Blanks and comments are skipped. -/
  verbose : Bool := false
deriving DecidableEq, Repr

namespace Flags

/-! ## Setting flags -/

/-- The flags with the one that a letter names set or cleared. -/
def put? (f : Flags) (value : Bool) : Char → Option Flags
  | 'i' => some { f with caseless := value }
  | 'm' => some { f with multiline := value }
  | 's' => some { f with dotAll := value }
  | 'U' => some { f with swapGreed := value }
  | 'u' => some { f with unicode := value }
  | 'R' => some { f with crlf := value }
  | 'x' => some { f with verbose := value }
  | _ => none

/-- Reads flags up to a colon or a closing parenthesis, given the letters read so far, last first.
The result also has what ended the flags and what follows it. -/
def read (f : Flags) (letters : List Char) : Text → Except Fault (Flags × Bool × Text)
  | [] => .error .groupUnclosed
  | c :: t =>
    if c = ':' ∨ c = ')' then
      if letters.head? = some '-' then .error .flagMissing
      else if c = ')' ∧ letters = [] then .error .repetitionMissing
      else .ok (f, c = ':', t)
    else if letters.contains c then .error .flagRepeated
    else if c = '-' then read f (c :: letters) t
    else
      match f.put? (!letters.contains '-') c with
      | none => .error .flagUnknown
      | some f => read f (c :: letters) t

/-! ## Blanks and comments -/

/-- The text without the blanks and comments it starts with. -/
def skipComments (inComment : Bool) : Text → Text
  | [] => []
  | c :: t =>
    if inComment then skipComments (c != '\n') t
    else if Text.isBlank c then skipComments false t
    else if c = '#' then skipComments true t
    else c :: t

/-- The text from the next part of the expression on. -/
def skip (f : Flags) (t : Text) : Text := if f.verbose then skipComments false t else t

/-- The next character that counts behind a hyphen in a class.  Of a comment only the number sign
is passed over, and where only blanks are left the first of them counts. -/
def peek? (f : Flags) (t : Text) : Option Char :=
  if f.verbose then
    match t.dropWhile Text.isBlank with
    | '#' :: u =>
      match u.dropWhile Text.isBlank with
      | [] => t.head?
      | c :: _ => some c
    | [] => t.head?
    | c :: _ => some c
  else t.head?

end Flags

end Descent.Regex
