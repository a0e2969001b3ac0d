import Descent.Parse
import Descent.Text.Clipped

/-!
# The log

Defining a rule and sealing a grammar are logged in one line each.  A call is logged as it starts
and as it ends, with the text in a field of fixed width, the label of the parser, and how the call
ends.  Lines are indented by the *depth* of the call, a counter that goes up as a call starts and
down as it ends, so calls stand indented below the one that makes them.  A call that a conversion
cuts short is not logged as it ends, yet the counter goes down.

`Level` says how much is kept: nothing, the lines on construction, or all lines.
-/

namespace Descent

namespace Log

/-- How much is logged. -/
inductive Level where
  /-- Nothing. -/
  | off
  /-- What is defined and sealed. -/
  | debug
  /-- All calls too. -/
  | trace
deriving DecidableEq, Repr

/-- A line of the log. -/
structure Line where
  /-- Whether the line tells of a call. -/
  isTrace : Bool
  /-- What the line says. -/
  message : Text
deriving DecidableEq, Repr

/-- The line with its level in front. -/
def Line.text (l : Line) : Text :=
  (if l.isTrace then "TRACE ".toList else "DEBUG ".toList) ++ l.message

/-- A line tells of a call if and only if its text starts with the level of calls. -/
theorem Line.isTrace_eq (l : Line) : l.isTrace = "TRACE ".toList.isPrefixOf l.text := by
  obtain ⟨isTrace, message⟩ := l
  cases isTrace with
  | true => rfl
  | false => rfl

/-- The lines that a level keeps. -/
def Level.keep : Level → List Line → List Line
  | off, _ => []
  | debug, ls => ls.filter fun l => !l.isTrace
  | trace, ls => ls

/-! ## Lines on construction -/

/-- The line that a rule has been defined. -/
def definedLine (r : Rule) : Line := ⟨false, "defined rule '".toList ++ r.name ++ "'".toList⟩

/-- The line that a parser has been sealed with so many rules. -/
def sealedLine (label : Text) (count : Nat) : Line :=
  ⟨false, "sealed grammar '".toList ++ label ++ "' with ".toList ++ Nat.toDigits 10 count ++
    " rule(s)".toList⟩

theorem text_sealedLine (label : Text) (count : Nat) :
    (sealedLine label count).text = "DEBUG sealed grammar '".toList ++ label ++ "' with ".toList ++
      Nat.toDigits 10 count ++ " rule(s)".toList := rfl

/-! ## Lines of calls -/

/-- The width of the field for labels. -/
def labelWidth : Nat := 25

/-- A line of a call: the text, the label at its depth, and what happens. -/
def callLine (depth : Nat) (t label what : Text) : Line :=
  ⟨true, t.clipped ++ [' '] ++ List.replicate (2 * depth) ' ' ++ Text.padEnd labelWidth label ++
    [' '] ++ what⟩

theorem text_callLine (depth : Nat) (t label what : Text) :
    (callLine depth t label what).text = "TRACE ".toList ++ t.clipped ++ [' '] ++
      List.replicate (2 * depth) ' ' ++ label ++ List.replicate (25 - label.length) ' ' ++ [' '] ++
        what := by
  simp [Line.text, callLine, Text.padEnd, labelWidth]

variable {M : Type}

/-- The line that ends a call of a parser at a text, if there is one. -/
def endLine (depth : Nat) (p : Parser M) (t : Text) : Outcome M → List Line
  | .matched m =>
    [callLine depth m.rest p.label ("-> ".toList ++ bracketed (m.output.tokens.map Text.quoted))]
  | .failed e => [callLine depth t p.label ("!! ".toList ++ e.debugText)]
  | _ => []

mutual

/-- The lines of a call at a depth, and the depth behind it. -/
def writeCall (depth : Nat) : Call M → List Line × Nat
  | .mk p t calls outcome =>
    let (inner, depth') := writeCalls (depth + 1) calls
    (callLine depth t p.label ['?'] :: (inner ++ endLine (depth' - 1) p t outcome), depth' - 1)

/-- The lines of calls in order, and the depth behind them. -/
def writeCalls (depth : Nat) : List (Call M) → List Line × Nat
  | [] => ([], depth)
  | c :: cs =>
    let (first, depth') := writeCall depth c
    let (others, depth'') := writeCalls depth' cs
    (first ++ others, depth'')

end

/-- The lines of a run that starts at a depth, and the depth behind it.  Calls are only written
where all lines are kept. -/
def ofRun (level : Level) (depth : Nat) (r : Run M) : List Line × Nat :=
  match level with
  | .trace => writeCalls depth r.calls
  | _ => ([], depth)

end Log

end Descent
