import Descent.CharSet

/-!
# Paths of bytes

A *path* is a list of byte ranges.  It stands for the characters whose UTF-8 form takes a byte of
each range in turn.  A span of characters is cut into pieces so that each piece is what one path
stands for: the characters of a piece have forms of one length, and wherever two of them differ in a
byte, the bytes behind it take all values that they can take.
-/

namespace Descent.Regex

/-- The first and the last byte of a range. -/
abbrev ByteRange := Nat × Nat

/-- A byte range for each byte of a form. -/
abbrev BytePath := List ByteRange

namespace BytePath

/-- The bytes of the UTF-8 form of a code point. -/
def utf8 (n : Nat) : List Nat :=
  if n < 0x80 then [n]
  else if n < 0x800 then [0xC0 + n / 64, 0x80 + n % 64]
  else if n < 0x10000 then [0xE0 + n / 4096, 0x80 + n / 64 % 64, 0x80 + n % 64]
  else [0xF0 + n / 262144, 0x80 + n / 4096 % 64, 0x80 + n / 64 % 64, 0x80 + n % 64]

/-- The code point behind which a span that touches several blocks of a size is cut, where it does
not fill the first or the last of them. -/
def blockCut? (lo hi size : Nat) : Option Nat :=
  if lo / size = hi / size then none
  else if lo % size ≠ 0 then some (lo / size * size + (size - 1))
  else if hi % size ≠ size - 1 then some (hi / size * size - 1)
  else none

/-- The code point behind which a span is cut: before the surrogates, where forms get longer, or
at the end of a block of forms that share their first bytes. -/
def cut? (lo hi : Nat) : Option Nat :=
  if lo < 0xE000 ∧ 0xD7FF < hi then some 0xD7FF
  else
    match [0x7F, 0x7FF, 0xFFFF].find? fun last => lo ≤ last && last < hi with
    | some last => some last
    | none => if hi < 0x80 then none else [64, 4096, 262144].findSome? (blockCut? lo hi)

/-- The pieces of a span in ascending order.  No piece is cut more than ten times, so few rounds
are enough. -/
def pieces : (fuel : Nat) → (lo hi : Nat) → List Span
  | 0, lo, hi => [(lo, hi)]
  | fuel + 1, lo, hi =>
    match cut? lo hi with
    | none => [(lo, hi)]
    | some last => pieces fuel lo last ++ pieces fuel (CharSet.next last) hi

/-- The paths of a span. -/
def ofSpan (a : Span) : List BytePath :=
  (pieces 16 a.1 a.2).map fun (lo, hi) => (utf8 lo).zip (utf8 hi)

/-- The paths of the characters of a set, in ascending order. -/
def ofSet (s : CharSet) : List BytePath := s.spans.flatMap ofSpan

end BytePath

end Descent.Regex
