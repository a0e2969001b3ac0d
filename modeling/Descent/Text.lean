/-!
# Texts

Parsers read texts and cut them into pieces.  A *text* is the list of its characters, so that a
piece of the input is a sublist and every function on texts is plain recursion.  Two measures of a
text matter here: whether it is empty, and its *size*, the number of bytes of its UTF-8 form.
Repetition goes on only while the remaining size falls.

*Blanks* are the characters of the Unicode property `White_Space`.  Matchers skip the blanks in
front of what they match (`trimStart`).
-/

namespace Descent

/-- A text, as the list of its characters. -/
abbrev Text := List Char

namespace Text

/-- The number of bytes of the UTF-8 form. -/
def size (t : Text) : Nat := t.foldl (fun n c => n + c.utf8Size) 0

/-- A count of bytes may start from any number. -/
theorem foldl_utf8Size (n : Nat) (t : Text) :
    t.foldl (fun n c => n + c.utf8Size) n = n + size t := by
  induction t generalizing n with
  | nil => rfl
  | cons c t ih => rw [size, List.foldl_cons, List.foldl_cons, ih, ih]; omega

@[simp] theorem size_nil : size [] = 0 := rfl

@[simp] theorem size_cons (c : Char) (t : Text) : size (c :: t) = c.utf8Size + size t := by
  rw [size, List.foldl_cons, foldl_utf8Size]; omega

@[simp] theorem size_append (t u : Text) : size (t ++ u) = size t + size u := by
  induction t with
  | nil => simp
  | cons c t ih => simp [ih, Nat.add_assoc]

/-- Only the empty text has no size. -/
theorem size_eq_zero_iff {t : Text} : size t = 0 ↔ t = [] := by
  cases t with
  | nil => simp
  | cons c t =>
    have := c.utf8Size_pos
    simp only [size_cons, reduceCtorEq, iff_false]
    omega

/-! ## Blanks -/

/-- A blank is a character with the property `White_Space`. -/
def isBlank (c : Char) : Bool :=
  let n := c.toNat
  (0x09 ≤ n && n ≤ 0x0D) || n == 0x20 || n == 0x85 || n == 0xA0 || n == 0x1680 ||
    (0x2000 ≤ n && n ≤ 0x200A) || n == 0x2028 || n == 0x2029 || n == 0x202F || n == 0x205F ||
    n == 0x3000

/-- The text without the blanks it starts with. -/
def trimStart (t : Text) : Text := t.dropWhile isBlank

/-- The text without the blanks it ends with. -/
def trimEnd (t : Text) : Text := (t.reverse.dropWhile isBlank).reverse

/-! ## Words at the front -/

/-- What follows `word` in a text that starts with it. -/
def after? : (word t : Text) → Option Text
  | [], t => some t
  | _ :: _, [] => none
  | w :: word, c :: t => if w = c then after? word t else none

theorem after?_eq_some_iff {word t u : Text} : after? word t = some u ↔ t = word ++ u := by
  induction word generalizing t with
  | nil => simp [after?]
  | cons w word ih =>
    cases t with
    | nil => simp [after?]
    | cons c t =>
      by_cases h : w = c
      · simp [after?, h, ih]
      · simp [after?, h, Ne.symm h]

/-- What follows a separator.  Blanks in front of the separator are skipped, except where the
separator itself starts with that blank. -/
def afterSeparator? (sep t : Text) : Option Text :=
  after? sep (t.dropWhile fun c => isBlank c && sep.head? != some c)

/-! ## Putting texts together -/

/-- The texts one after the other with `sep` between them. -/
def joinWith (sep : Text) : List Text → Text
  | [] => []
  | [t] => t
  | t :: u :: ts => t ++ sep ++ joinWith sep (u :: ts)

/-- The text with spaces at its end, up to a width. -/
def padEnd (width : Nat) (t : Text) : Text := t ++ List.replicate (width - t.length) ' '

end Text

end Descent
