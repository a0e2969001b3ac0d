import Descent.Text
import Descent.Text.CaseOrbit

/-!
# Sets of characters

A set of characters is given by its *spans*, each the first and the last code point of characters
that follow one another.  The spans of a set ascend, and there is a gap between any two, so equal
sets have equal spans.  Characters on the two sides of the surrogates do not follow one another: a
set that has both has a span on either side, or one that leads across.

Sets are put together by sweeps over the spans of both sides.  `fold` closes a set under case.
-/

namespace Descent

/-- The first and the last code point of characters that follow one another. -/
abbrev Span := Nat × Nat

/-- A set of characters, by its spans. -/
structure CharSet where
  /-- The spans, ascending, with gaps between them. -/
  spans : List Span
deriving DecidableEq, Repr, Inhabited

/-! ## Letters and digits -/

theorem isUpper_iff (c : Char) : c.isUpper = true ↔ 65 ≤ c.toNat ∧ c.toNat ≤ 90 :=
  decide_eq_true_iff

theorem isLower_iff (c : Char) : c.isLower = true ↔ 97 ≤ c.toNat ∧ c.toNat ≤ 122 :=
  Bool.and_eq_true_iff.trans (and_congr decide_eq_true_iff decide_eq_true_iff)

theorem isAlpha_iff (c : Char) :
    c.isAlpha = true ↔ 65 ≤ c.toNat ∧ c.toNat ≤ 90 ∨ 97 ≤ c.toNat ∧ c.toNat ≤ 122 :=
  Bool.or_eq_true_iff.trans (or_congr (isUpper_iff c) (isLower_iff c))

theorem isDigit_iff (c : Char) : c.isDigit = true ↔ 48 ≤ c.toNat ∧ c.toNat ≤ 57 :=
  Bool.and_eq_true_iff.trans (and_congr decide_eq_true_iff decide_eq_true_iff)

theorem isAlphanum_iff (c : Char) :
    c.isAlphanum = true ↔ c.isAlpha = true ∨ 48 ≤ c.toNat ∧ c.toNat ≤ 57 :=
  Bool.or_eq_true_iff.trans (or_congr Iff.rfl (isDigit_iff c))

namespace CharSet

/-! ## Membership -/

/-- Whether one of the ascending spans has a code point. -/
def spansContain (n : Nat) : List Span → Bool
  | [] => false
  | (lo, hi) :: spans => lo ≤ n && (n ≤ hi || spansContain n spans)

/-- Whether the set has the character. -/
def contains (s : CharSet) (c : Char) : Bool := spansContain c.toNat s.spans

/-- Whether the set has no character. -/
def isEmpty (s : CharSet) : Bool := s.spans.isEmpty

/-- Whether all characters of the set are below 128. -/
def isAscii (s : CharSet) : Bool := s.spans.all fun (_, hi) => hi < 128

/-- The character of a set that has just one. -/
def only? (s : CharSet) : Option Char :=
  match s.spans with
  | [(lo, hi)] => if lo = hi then some (Char.ofNat lo) else none
  | _ => none

/-! ## Building sets -/

/-- The set of no characters. -/
def none : CharSet := ⟨[]⟩

/-- All characters. -/
def all : CharSet := ⟨[(0, 0x10FFFF)]⟩

/-- The characters from `lo` to `hi`. -/
def range (lo hi : Char) : CharSet := ⟨if lo ≤ hi then [(lo.toNat, hi.toNat)] else []⟩

/-- The set of one character. -/
def single (c : Char) : CharSet := ⟨[(c.toNat, c.toNat)]⟩

theorem contains_single (c d : Char) : (single c).contains d = true ↔ d = c := by
  rw [← Char.toNat_inj]
  simp [single, contains, spansContain]
  omega

theorem contains_pair {d e : Char} (h : d.toNat ≤ e.toNat) (c : Char) :
    (mk [(d.toNat, d.toNat), (e.toNat, e.toNat)]).contains c = true ↔ c = d ∨ c = e := by
  rw [← Char.toNat_inj, ← Char.toNat_inj]
  simp [contains, spansContain]
  omega

theorem toNat_le (c : Char) : c.toNat ≤ 0x10FFFF := by
  have hvalid := c.valid
  simp only [UInt32.isValidChar, Nat.isValidChar] at hvalid
  rw [← Char.toNat_val]
  omega

/-- All characters but one are the set of those on either side. -/
theorem contains_iff_ne {n : Nat} (d c : Char) (hd : d.toNat = n + 1) :
    (mk [(0, n), (n + 2, 0x10FFFF)]).contains c = true ↔ c ≠ d := by
  have hmax := toNat_le c
  rw [Ne, ← Char.toNat_inj, hd]
  simp [contains, spansContain]
  omega

/-- The code point of the character after the one at `n`. -/
def next (n : Nat) : Nat := if n = 0xD7FF then 0xE000 else n + 1

/-- The code point of the character before the one at `n`. -/
def previous (n : Nat) : Nat := if n = 0xE000 then 0xD7FF else n - 1

/-! ## Sweeps

Each step of a sweep over two lists of spans uses up a span of one of them, so their lengths
together are fuel enough. -/

/-- The spans of both lists in the order in which they start. -/
def merge : (fuel : Nat) → List Span → List Span → List Span
  | 0, _, _ => []
  | _, [], bs => bs
  | _, as, [] => as
  | fuel + 1, a :: as, b :: bs =>
    if a.1 ≤ b.1 then a :: merge fuel as (b :: bs) else b :: merge fuel (a :: as) bs

/-- Joins spans that overlap or follow one another, given in the order in which they start. -/
def joinFrom (a : Span) : List Span → List Span
  | [] => [a]
  | b :: bs => if b.1 ≤ a.2 + 1 then joinFrom (a.1, max a.2 b.2) bs else a :: joinFrom b bs

/-- Joins spans that overlap or follow one another, given in the order in which they start. -/
def joined : List Span → List Span
  | [] => []
  | a :: as => joinFrom a as

/-- What spans of both lists share. -/
def shared : (fuel : Nat) → List Span → List Span → List Span
  | 0, _, _ => []
  | _, [], _ => []
  | _, _, [] => []
  | fuel + 1, a :: as, b :: bs =>
    let rest := if a.2 < b.2 then shared fuel as (b :: bs) else shared fuel (a :: as) bs
    if max a.1 b.1 ≤ min a.2 b.2 then (max a.1 b.1, min a.2 b.2) :: rest else rest

/-- What is left of the first spans without the second. -/
def without : (fuel : Nat) → List Span → List Span → List Span
  | 0, _, _ => []
  | _, [], _ => []
  | _, as, [] => as
  | fuel + 1, a :: as, b :: bs =>
    if b.2 < a.1 then without fuel (a :: as) bs
    else if a.2 < b.1 then a :: without fuel as (b :: bs)
    else
      let rest :=
        if b.2 < a.2 then without fuel ((next b.2, a.2) :: as) bs else without fuel as (b :: bs)
      if a.1 < b.1 then (a.1, previous b.1) :: rest else rest

/-- The span from one code point to another, whichever comes first. -/
def between (m n : Nat) : Span := if m ≤ n then (m, n) else (n, m)

/-- The gaps between spans.  Where only the surrogates part two spans, the gap is made of the
characters next to them. -/
def gaps : List Span → List Span
  | [] => []
  | [_] => []
  | a :: b :: spans => between (next a.2) (previous b.1) :: gaps (b :: spans)

/-! ## The algebra of sets -/

/-- The characters of either set. -/
def union (a b : CharSet) : CharSet :=
  ⟨joined (merge (a.spans.length + b.spans.length) a.spans b.spans)⟩

/-- The characters of both sets. -/
def inter (a b : CharSet) : CharSet :=
  ⟨shared (a.spans.length + b.spans.length) a.spans b.spans⟩

/-- The characters of the first set that are not in the second. -/
def diff (a b : CharSet) : CharSet :=
  ⟨without (a.spans.length + b.spans.length) a.spans b.spans⟩

/-- The characters of exactly one of the sets. -/
def symmDiff (a b : CharSet) : CharSet := (a.union b).diff (a.inter b)

/-- The characters before, between and after the spans of the set. -/
def compl (a : CharSet) : CharSet :=
  match a.spans.head?, a.spans.getLast? with
  | some (lo, _), some (_, hi) =>
    ⟨(if 0 < lo then [(0, previous lo)] else []) ++ gaps a.spans ++
      (if hi < 0x10FFFF then [(next hi, 0x10FFFF)] else [])⟩
  | _, _ => all

/-- The union of sets. -/
def unions (as : List CharSet) : CharSet := as.foldl union none

/-- The set of spans in any order. -/
def ofSpans (spans : List Span) : CharSet := unions (spans.map fun a => ⟨[a]⟩)

/-- The set with all characters that are the same up to case as one of its own. -/
def fold (a : CharSet) : CharSet :=
  let orbits := CaseOrbit.orbits.filter fun orbit => orbit.any (spansContain · a.spans)
  let codes := orbits.flatten.mergeSort
  a.union ⟨joined (codes.map fun n => (n, n))⟩

/-! ## Classes of ASCII -/

/-- The characters below 128. -/
def ascii : CharSet := ⟨[(0, 127)]⟩

/-- The ASCII characters that words are made of. -/
def asciiWord : CharSet := unions [range '0' '9', range 'A' 'Z', single '_', range 'a' 'z']

/-- The blanks of ASCII. -/
def asciiBlank : CharSet := unions [range '\t' '\r', single ' ']

/-- The classes of ASCII characters that have a name. -/
def asciiNamed? (name : Text) : Option CharSet :=
  match String.ofList name with
  | "alnum" => some (unions [range '0' '9', range 'A' 'Z', range 'a' 'z'])
  | "alpha" => some (unions [range 'A' 'Z', range 'a' 'z'])
  | "ascii" => some ascii
  | "blank" => some (unions [single '\t', single ' '])
  | "cntrl" => some (unions [range '\x00' '\x1f', single '\x7f'])
  | "digit" => some (range '0' '9')
  | "graph" => some (range '!' '~')
  | "lower" => some (range 'a' 'z')
  | "print" => some (range ' ' '~')
  | "punct" => some (unions [range '!' '/', range ':' '@', range '[' '\x60', range '{' '~'])
  | "space" => some asciiBlank
  | "upper" => some (range 'A' 'Z')
  | "word" => some asciiWord
  | "xdigit" => some (unions [range '0' '9', range 'A' 'F', range 'a' 'f'])
  | _ => Option.none

end CharSet

end Descent
