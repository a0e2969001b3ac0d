/-!
# Hexadecimal digits

Code points are written in hexadecimal digits, in the tables of the library and in the escapes of
regular expressions.
-/

namespace Descent.Hex

/-- The value of a hexadecimal digit. -/
def digit? (c : Char) : Option Nat :=
  if '0' ≤ c ∧ c ≤ '9' then some (c.toNat - '0'.toNat)
  else if 'a' ≤ c ∧ c ≤ 'f' then some (c.toNat - 'a'.toNat + 10)
  else if 'A' ≤ c ∧ c ≤ 'F' then some (c.toNat - 'A'.toNat + 10)
  else none

/-- The number that hexadecimal digits write; characters that are no digits are skipped. -/
def value (digits : List Char) : Nat :=
  (digits.filterMap digit?).foldl (fun n d => 16 * n + d) 0

end Descent.Hex
