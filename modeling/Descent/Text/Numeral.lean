import Descent.Text

/-!
# Numerals

An integer is written in decimal digits behind an optional sign.  It is read digit by digit, and
the first digit at which the number leaves its range, or the first character that is no digit, is
the fault that is reported.
-/

namespace Descent

/-- A range of integers that is read and written. -/
structure IntRange where
  /-- The least integer. -/
  min : Int
  /-- The greatest integer. -/
  max : Int

namespace IntRange

/-- The integers of eight bits without a sign. -/
def byte : IntRange := ⟨0, 255⟩

/-- The integers of sixty-four bits with a sign. -/
def word : IntRange := ⟨Int64.minValue.toInt, Int64.maxValue.toInt⟩

end IntRange

/-- Why a text is no numeral of a range. -/
inductive NumeralFault where
  /-- The text is empty. -/
  | empty
  /-- A character stands where a digit belongs; also a sign with nothing behind it. -/
  | invalidDigit
  /-- The number passes the greatest of the range. -/
  | tooLarge
  /-- The number passes the least of the range. -/
  | tooSmall
deriving DecidableEq, Repr

namespace NumeralFault

/-- The fault in words. -/
def message : NumeralFault → String
  | empty => "cannot parse integer from empty string"
  | invalidDigit => "invalid digit found in string"
  | tooLarge => "number too large to fit in target type"
  | tooSmall => "number too small to fit in target type"

end NumeralFault

namespace Numeral

/-- The value of a decimal digit. -/
def digit? (c : Char) : Option Nat :=
  if '0' ≤ c ∧ c ≤ '9' then some (c.toNat - '0'.toNat) else none

/-- Reads on from the number read so far, upwards. -/
def readUp (range : IntRange) (n : Int) : Text → Except NumeralFault Int
  | [] => .ok n
  | c :: t =>
    match digit? c with
    | none => .error .invalidDigit
    | some d => if 10 * n + d ≤ range.max then readUp range (10 * n + d) t else .error .tooLarge

/-- Reads on from the number read so far, downwards. -/
def readDown (range : IntRange) (n : Int) : Text → Except NumeralFault Int
  | [] => .ok n
  | c :: t =>
    match digit? c with
    | none => .error .invalidDigit
    | some d => if range.min ≤ 10 * n - d then readDown range (10 * n - d) t else .error .tooSmall

/-- Reads a numeral.  A minus sign is a sign only where the range has negative integers. -/
def read (range : IntRange) : Text → Except NumeralFault Int
  | [] => .error .empty
  | ['+'] | ['-'] => .error .invalidDigit
  | '+' :: t => readUp range 0 t
  | '-' :: t => if range.min < 0 then readDown range 0 t else .error .invalidDigit
  | t => readUp range 0 t

end Numeral

end Descent
