/-!
# Faults of expressions

Why a text is no regular expression.
-/

namespace Descent.Regex

/-- Why a text is no regular expression. -/
inductive Fault where
  /-- A group is not closed. -/
  | groupUnclosed
  /-- A closing parenthesis has no group. -/
  | groupUnopened
  /-- The name of a group is empty. -/
  | groupNameEmpty
  /-- The name of a group has a character that names do not have. -/
  | groupNameInvalid
  /-- Two groups have the same name. -/
  | groupNameTaken
  /-- A group looks ahead or behind. -/
  | lookAround
  /-- A letter is no flag. -/
  | flagUnknown
  /-- A flag or the minus sign between flags stands twice. -/
  | flagRepeated
  /-- No flag follows the minus sign. -/
  | flagMissing
  /-- There is nothing to repeat. -/
  | repetitionMissing
  /-- The count of a repetition is not closed. -/
  | countUnclosed
  /-- The count of a repetition has no digits. -/
  | countEmpty
  /-- The count of a repetition does not fit in thirty-two bits. -/
  | countTooLarge
  /-- The least count of a repetition is above the greatest. -/
  | countReversed
  /-- A class is not closed. -/
  | classUnclosed
  /-- A range ends before it starts. -/
  | rangeReversed
  /-- An end of a range is no single character. -/
  | rangeEnd
  /-- A place stands in a class. -/
  | classItem
  /-- The text ends inside an escape. -/
  | escapeUnclosed
  /-- A letter is no escape. -/
  | escapeUnknown
  /-- A group is referred to by its number. -/
  | backReference
  /-- A character stands where a hexadecimal digit belongs. -/
  | hexDigit
  /-- There are no hexadecimal digits between the braces. -/
  | hexEmpty
  /-- Hexadecimal digits give no character. -/
  | hexValue
  /-- The kind of a word boundary is not closed or no kind at all. -/
  | boundaryUnknown
  /-- There is no such property. -/
  | propertyUnknown
  /-- The class goes beyond ASCII where only ASCII classes are allowed. -/
  | beyondAscii
  /-- The expression is nested too deep. -/
  | tooDeep
  /-- The automata of the expression would be too large. -/
  | tooLarge
deriving DecidableEq, Repr

end Descent.Regex
