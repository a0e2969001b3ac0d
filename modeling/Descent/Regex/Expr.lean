import Descent.Property.Derived

/-!
# Regular expressions

An expression matches pieces of a text in an order of preference.  An alternation prefers its
first branch; a *greedy* repetition prefers to go on and a lazy one prefers to stop.  A *look*
matches the empty piece at places of a certain kind, which it tells from the characters on either
side.

Expressions are kept in a normal form, which `ofSet`, `seqs`, `alts` and `repeated` build.  Words
that stand side by side are one word, sequences and alternations lean to the right, alternatives of
one character each are one set, and the parts that all alternatives start with stand in front of
the alternation.  The last rule may change which of two matches is preferred: where the shared
parts match pieces of different lengths, their preference comes before that of the alternatives.
-/

namespace Descent.Regex

/-! ## Looks -/

/-- A kind of place in a text.  For the kinds that tell words apart, `ascii` says whether only the
ASCII characters of words count. -/
inductive Look where
  /-- The start of the text. -/
  | textStart
  /-- The end of the text. -/
  | textEnd
  /-- The start of a line that a line feed ends. -/
  | lineStart
  /-- The end of a line that a line feed ends. -/
  | lineEnd
  /-- The start of a line that a line feed, a carriage return or both in turn end. -/
  | lineStartCrlf
  /-- The end of a line that a line feed, a carriage return or both in turn end. -/
  | lineEndCrlf
  /-- A word starts or ends. -/
  | boundary (ascii : Bool)
  /-- No word starts or ends. -/
  | noBoundary (ascii : Bool)
  /-- A word starts. -/
  | wordStart (ascii : Bool)
  /-- A word ends. -/
  | wordEnd (ascii : Bool)
  /-- No word comes from before. -/
  | wordStartHalf (ascii : Bool)
  /-- No word goes on. -/
  | wordEndHalf (ascii : Bool)
deriving DecidableEq, Repr

namespace Look

/-- Whether there is a character, one that words are made of. -/
def inWord (ascii : Bool) : Option Char → Bool
  | none => false
  | some c => (if ascii then CharSet.asciiWord else Property.word).contains c

/-- Whether a place is of the kind, given the characters before and after it. -/
def holds (before after : Option Char) : Look → Bool
  | textStart => before.isNone
  | textEnd => after.isNone
  | lineStart => before.isNone || before == some '\n'
  | lineEnd => after.isNone || after == some '\n'
  | lineStartCrlf =>
    before.isNone || before == some '\n' || (before == some '\r' && after != some '\n')
  | lineEndCrlf =>
    after.isNone || after == some '\r' || (after == some '\n' && before != some '\r')
  | boundary a => inWord a before != inWord a after
  | noBoundary a => inWord a before == inWord a after
  | wordStart a => !inWord a before && inWord a after
  | wordEnd a => inWord a before && !inWord a after
  | wordStartHalf a => !inWord a before
  | wordEndHalf a => !inWord a after

end Look

/-! ## Expressions -/

/-- A regular expression. -/
inductive Expr where
  /-- The empty piece. -/
  | empty
  /-- One character of a set.  `narrow` says that the set was written where sets do not go beyond
  ASCII; it tells apart expressions that match the same. -/
  | set (narrow : Bool) (s : CharSet)
  /-- The characters of a text one after the other. -/
  | word (t : Text)
  /-- The empty piece, at a place of a kind. -/
  | look (l : Look)
  /-- A piece that is remembered by a number. -/
  | group (n : Nat) (a : Expr)
  /-- A piece of the first, then one of the second. -/
  | seq (a b : Expr)
  /-- A piece of the first or one of the second, the first preferred. -/
  | alt (a b : Expr)
  /-- At least `least` pieces in a row and, where there is a bound, at most `most`. -/
  | times (greedy : Bool) (least : Nat) (most : Option Nat) (a : Expr)
deriving DecidableEq, Repr, Inhabited

namespace Expr

/-! ### What expressions match -/

/-- The least number of characters of a match, if there can be one.  An alternation counts as one
that cannot match if a branch does. -/
def shortest? : Expr → Option Nat
  | empty => some 0
  | set _ s => if s.isEmpty then none else some 1
  | word t => some t.length
  | look _ => some 0
  | group _ a => a.shortest?
  | seq a b =>
    match a.shortest?, b.shortest? with
    | some m, some n => some (m + n)
    | _, _ => none
  | alt a b =>
    match a.shortest?, b.shortest? with
    | some m, some n => some (min m n)
    | _, _ => none
  | times _ least _ a => a.shortest?.map (least * ·)

/-- Whether the expression is known to match no empty piece. -/
def isSolid (a : Expr) : Bool := a.shortest?.any (0 < ·)

/-- Whether the expression reads no character. -/
def isBare : Expr → Bool
  | empty => true
  | set _ _ => false
  | word _ => false
  | look _ => true
  | group _ a => a.isBare
  | seq a b => a.isBare && b.isBare
  | alt a b => a.isBare && b.isBare
  | times _ _ _ a => a.isBare

/-- Whether every match is known to start with a look of a kind. -/
def startsWith (l : Look) : Expr → Bool
  | look m => l == m
  | group _ a => a.startsWith l
  | seq a b => a.startsWith l || (a.isBare && b.startsWith l)
  | alt a b => a.startsWith l && b.startsWith l
  | times _ least _ a => 0 < least && a.startsWith l
  | _ => false

/-- Whether every match is known to end with a look of a kind. -/
def endsWith (l : Look) : Expr → Bool
  | look m => l == m
  | group _ a => a.endsWith l
  | seq a b => b.endsWith l || (b.isBare && a.endsWith l)
  | alt a b => a.endsWith l && b.endsWith l
  | times _ least _ a => 0 < least && a.endsWith l
  | _ => false

/-! ### Sequences -/

/-- The parts of a sequence. -/
def parts : Expr → List Expr
  | empty => []
  | seq a b => a :: b.parts
  | a => [a]

/-- One part more in front.  A word joins the word that follows it. -/
def consPart : Expr → List Expr → List Expr
  | word t, word u :: as => word (t ++ u) :: as
  | a, as => a :: as

/-- The sequence of parts. -/
def ofParts : List Expr → Expr
  | [] => empty
  | [a] => a
  | a :: b :: as => seq a (ofParts (b :: as))

/-- The expressions one after the other. -/
def seqs (as : List Expr) : Expr := ofParts ((as.flatMap parts).foldr consPart [])

/-! ### Alternations -/

/-- One character of a set.  A set without characters always counts as narrow. -/
def ofSet (narrow : Bool) (s : CharSet) : Expr :=
  match s.only? with
  | some c => word [c]
  | none => set (narrow || s.isEmpty) s

/-- The branches of an alternation. -/
def branches : Expr → List Expr
  | alt a b => a :: b.branches
  | a => [a]

/-- The alternation of branches. -/
def ofBranches : List Expr → Expr
  | [] => empty
  | [a] => a
  | a :: b :: as => alt a (ofBranches (b :: as))

/-- The characters of a list of words of one character each. -/
def chars? : List Expr → Option CharSet
  | [] => some .none
  | word [c] :: as => (chars? as).map (CharSet.single c).union
  | _ => none

/-- The union of a list of sets. -/
def sets? : List Expr → Option CharSet
  | [] => some .none
  | set _ s :: as => (sets? as).map s.union
  | _ => none

/-- The branches as alternatives.  One character of each, or a set of each, make a set. -/
def choose (as : List Expr) : Expr :=
  let bs := as.flatMap branches
  match chars? bs, sets? bs with
  | some s, _ => ofSet false s
  | none, some s => ofSet false s
  | none, none => ofBranches bs

/-- What two lists start with. -/
def sharedStart : List Expr → List Expr → List Expr
  | a :: as, b :: bs => if a = b then a :: sharedStart as bs else []
  | _, _ => []

/-- The parts that all branches start with, if every branch has two parts or more. -/
def sharedParts (bs : List Expr) : List Expr :=
  let ps := bs.map parts
  if ps.all (2 ≤ ·.length) then
    match ps with
    | p :: q :: ps => (q :: ps).foldl sharedStart p
    | _ => []
  else []

/-- The expressions as alternatives, the first preferred. -/
def alts (as : List Expr) : Expr :=
  let bs := as.flatMap branches
  match sharedParts bs with
  | [] => choose bs
  | ps => seqs (ps ++ [choose (bs.map fun b => seqs (b.parts.drop ps.length))])

/-! ### Repetitions -/

/-- The expression at least `least` times in a row and, where there is a bound, at most `most`
times.  One that reads no character need not be repeated. -/
def repeated (greedy : Bool) (least : Nat) (most : Option Nat) (a : Expr) : Expr :=
  let least := if a.isBare then min least 1 else least
  let most := if a.isBare then some (min (most.getD 1) 1) else most
  if least = 0 ∧ most = some 0 then empty
  else if least = 1 ∧ most = some 1 then a
  else times greedy least most a

end Expr

end Descent.Regex
