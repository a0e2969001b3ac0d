import Descent.Text
import Descent.Text.Category

/-!
# Quoted texts

A text is shown in double quotes.  A character that would end the quotes, that has no visible form
of its own, or that would attach to its neighbour is written by an *escape*, a backslash and what
follows it.  Escapes are the same wherever the character stands, so a quoted text is the
concatenation of what its characters are written as.
-/

namespace Descent.Text

/-! ## Which characters stand for themselves -/

/-- Characters other than marks that extend the one before them, as ranges of code points. -/
def extenderRanges : List (Nat × Nat) :=
  [(0x9BE, 0x9BE), (0x9D7, 0x9D7), (0xB3E, 0xB3E), (0xB57, 0xB57), (0xBBE, 0xBBE), (0xBD7, 0xBD7),
   (0xCC0, 0xCC0), (0xCC2, 0xCC2), (0xCC7, 0xCC8), (0xCCA, 0xCCB), (0xCD5, 0xCD6), (0xD3E, 0xD3E),
   (0xD57, 0xD57), (0xDCF, 0xDCF), (0xDDF, 0xDDF), (0x1715, 0x1715), (0x1734, 0x1734),
   (0x1B35, 0x1B35), (0x1B3B, 0x1B3B), (0x1B3D, 0x1B3D), (0x1B43, 0x1B44), (0x1BAA, 0x1BAA),
   (0x1BF2, 0x1BF3), (0x200C, 0x200C), (0x302E, 0x302F), (0xA953, 0xA953), (0xA9C0, 0xA9C0),
   (0x111C0, 0x111C0), (0x11235, 0x11235), (0x1133E, 0x1133E),
   (0x1134D, 0x1134D), (0x11357, 0x11357), (0x113B8, 0x113B8), (0x113C2, 0x113C2),
   (0x113C5, 0x113C5), (0x113C7, 0x113C9), (0x113CF, 0x113CF), (0x114B0, 0x114B0),
   (0x114BD, 0x114BD), (0x115AF, 0x115AF), (0x116B6, 0x116B6), (0x11930, 0x11930),
   (0x1193D, 0x1193D), (0x11F41, 0x11F41), (0x16FF0, 0x16FF1), (0x1D165, 0x1D166),
   (0x1D16D, 0x1D172), (0xE0020, 0xE007F)]

/-- A character that extends the one before it: a mark that takes no room of its own, or one of
the characters listed as extenders. -/
def isExtender (c : Char) : Bool :=
  Category.of c == .mn || Category.of c == .me ||
    extenderRanges.any fun (lo, hi) => lo ≤ c.toNat && c.toNat ≤ hi

/-- A letter that only fills a place in a syllable of the Korean script and leaves it blank. -/
def isFiller (c : Char) : Bool := [0x115F, 0x1160, 0x3164, 0xFFA0].contains c.toNat

/-- A character of printable ASCII, from the space to the tilde. -/
def isPlainAscii (c : Char) : Bool := 0x20 ≤ c.toNat && c.toNat ≤ 0x7E

/-- A character that has a visible form of its own. -/
def isVisible (c : Char) : Bool :=
  isPlainAscii c || !(isExtender c || isFiller c || (Category.of c).isInvisible)

/-! ## Escapes -/

/-- The escape that gives a code point in lower case hexadecimal digits, in braces. -/
def codeEscape (c : Char) : Text := ['\\', 'u', '{'] ++ Nat.toDigits 16 c.toNat ++ ['}']

/-- What a character is written as between double quotes. -/
def escaped (c : Char) : Text :=
  match c with
  | '"' => ['\\', '"']
  | '\\' => ['\\', '\\']
  | '\n' => ['\\', 'n']
  | '\r' => ['\\', 'r']
  | '\t' => ['\\', 't']
  | '\x00' => ['\\', '0']
  | c => if isVisible c then [c] else codeEscape c

/-- The text in double quotes. -/
def quoted (t : Text) : Text := '"' :: (t.flatMap escaped ++ ['"'])

end Descent.Text
