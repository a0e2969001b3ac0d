import Descent.Regex.Class

/-!
# Reading expressions

An expression is read from its text one part after the other.  The parts of the alternative that is
being read wait in a list until it ends, and so do the alternatives of a group; the groups around
it wait in a stack.  A group closes with the flags that it opened with.

A repetition takes the part before it.  Every level of brackets, groups and repetitions makes an
expression deeper, and so do parts and alternatives that stand side by side.  The reader refuses a
text that is nested deeper than `depthLimit`.
-/

namespace Descent.Regex

/-- The greatest depth to which an expression may be nested. -/
def depthLimit : Nat := 250

/-- A part of an alternative. -/
structure Part where
  /-- The expression.  Flags for what follows have none and cannot be repeated. -/
  expr : Option Expr
  /-- How deep the text of the part is nested. -/
  depth : Nat := 0

namespace Part

/-- The depth of things side by side, given the depth of each. -/
def depthOf (depths : List Nat) : Nat :=
  match depths with
  | [] => 0
  | [d] => d
  | d :: e :: ds => (e :: ds).foldl max d + 1

/-- Parts one after the other. -/
def seqs (parts : List Part) : Part :=
  ⟨some (.seqs (parts.filterMap expr)), depthOf (parts.map depth)⟩

/-- Alternatives, the first preferred. -/
def alts (parts : List Part) : Part :=
  match parts with
  | [part] => part
  | parts => ⟨some (.alts (parts.filterMap expr)), depthOf (parts.map depth)⟩

end Part

/-- A group that is being read. -/
structure OpenGroup where
  /-- The flags in force. -/
  flags : Flags
  /-- The number by which its pieces are remembered. -/
  number : Option Nat := none
  /-- The alternatives that are complete, last first. -/
  branches : List Part := []
  /-- The parts of the alternative that is being read, last first. -/
  parts : List Part := []

namespace OpenGroup

/-- The alternative that is being read. -/
def branch (g : OpenGroup) : Part := .seqs g.parts.reverse

/-- The group with the next alternative to be read. -/
def nextBranch (g : OpenGroup) : OpenGroup :=
  { g with branches := g.branch :: g.branches, parts := [] }

/-- What the group holds. -/
def body (g : OpenGroup) : Part := .alts (g.branch :: g.branches).reverse

/-- The group as a part of the group around it. -/
def value (g : OpenGroup) : Part :=
  let expr := match g.number with
    | some n => g.body.expr.map (.group n)
    | none => g.body.expr
  ⟨expr, g.body.depth + 1⟩

/-- The group with one more part. -/
def add (g : OpenGroup) (part : Part) : OpenGroup := { g with parts := part :: g.parts }

/-- The group with its last part repeated. -/
def repeatLast (g : OpenGroup) (greedy : Bool) (least : Nat) (most : Option Nat) :
    Except Fault OpenGroup :=
  match g.parts with
  | ⟨some a, depth⟩ :: parts =>
    let b := Expr.repeated (greedy != g.flags.swapGreed) least most a
    .ok { g with parts := ⟨some b, depth + 1⟩ :: parts }
  | _ => .error .repetitionMissing

end OpenGroup

/-- What has been read of an expression. -/
structure Reader where
  /-- The group that is being read. -/
  group : OpenGroup
  /-- The groups around it, the nearest first. -/
  outer : List OpenGroup := []
  /-- The names of groups read so far. -/
  names : List Text := []
  /-- The number of groups read so far whose pieces are remembered. -/
  count : Nat := 0

namespace Reader

/-! ## Characters and places -/

/-- The expression of a character. -/
def charExpr (f : Flags) (c : Char) (narrow : Bool) : Except Fault Expr :=
  if f.unicode || c.toNat < 128 then .ok (.ofSet (!f.unicode) (caseClosed f (.single c)))
  else if f.caseless || (narrow && c.toNat < 256) then .error .beyondAscii
  else .ok (.word [c])

/-- The expression of an atom. -/
def atomExpr (f : Flags) : Atom → Except Fault Expr
  | .char c narrow => charExpr f c narrow
  | .set s => .ok (.ofSet (!f.unicode) s)
  | .look l => .ok (.look l)

/-- The expression of the dot. -/
def dotExpr (f : Flags) : Except Fault Expr :=
  if !f.unicode then .error .beyondAscii
  else if f.dotAll then .ok (.ofSet false .all)
  else if f.crlf then .ok (.ofSet false (CharSet.union (.single '\r') (.single '\n')).compl)
  else .ok (.ofSet false (CharSet.single '\n').compl)

/-- The place of a circumflex. -/
def startLook (f : Flags) : Look :=
  if f.multiline then if f.crlf then .lineStartCrlf else .lineStart else .textStart

/-- The place of a dollar sign. -/
def endLook (f : Flags) : Look :=
  if f.multiline then if f.crlf then .lineEndCrlf else .lineEnd else .textEnd

/-! ## Repetitions -/

/-- Whether a question mark follows that makes a repetition lazy, and what follows it. -/
def takeLazy : Text → Bool × Text
  | '?' :: t => (true, t)
  | t => (false, t)

/-- Reads the digits of a count, given those read so far, last first. -/
def readDigits (f : Flags) (digits : Text) : (fuel : Nat) → Text → Text × Text
  | 0, t => (digits.reverse, t)
  | fuel + 1, t =>
    match t with
    | c :: u =>
      if c.isDigit then readDigits f (c :: digits) fuel (f.skip u) else (digits.reverse, t)
    | [] => (digits.reverse, [])

/-- Reads a count of thirty-two bits.  Blanks on either side are skipped. -/
def readCount (f : Flags) (t : Text) : Except Fault (Nat × Text) :=
  match readDigits f [] (t.length + 1) (t.dropWhile Text.isBlank) with
  | ([], _) => .error .countEmpty
  | (digits, t) =>
    let n := digits.foldl (fun n c => 10 * n + (c.toNat - '0'.toNat)) 0
    if n < UInt32.size then .ok (n, skipBlanks (t.length + 1) t) else .error .countTooLarge
where
  /-- The text without the blanks, and the comments behind them, that it starts with. -/
  skipBlanks : (fuel : Nat) → Text → Text
    | 0, t => t
    | fuel + 1, t =>
      match t with
      | c :: u => if Text.isBlank c then skipBlanks fuel (f.skip u) else t
      | [] => []

/-- Reads the counts of a repetition, from behind the opening brace.  The result is the least
count, the greatest if there is one, whether the repetition is lazy, and what follows. -/
def readCounts (f : Flags) (t : Text) : Except Fault (Nat × Option Nat × Bool × Text) := do
  let (least, t) ← readCount f (f.skip t)
  let (most, t) ← match t with
    | ',' :: u =>
      match f.skip u with
      | '}' :: v => .ok (none, '}' :: v)
      | v => do
        let (most, w) ← readCount f v
        .ok (some most, w)
    | u => .ok (some least, u)
  match t with
  | '}' :: u =>
    let (isLazy, u) := takeLazy (f.skip u)
    if most.any (· < least) then .error .countReversed else .ok (least, most, isLazy, u)
  | _ => .error .countUnclosed

/-! ## Groups -/

/-- Whether names have the character, and start with it where it is the first. -/
def isNameChar (first : Bool) (c : Char) : Bool :=
  c == '_' || Property.isAlphabetic c ||
    (!first && (c == '.' || c == '[' || c == ']' || (Category.of c).isNumber))

/-- Reads the name of a group, up to the closing angle bracket. -/
def readName (taken : List Text) (t : Text) : Except Fault (Text × Text) :=
  let name := t.takeWhile (· != '>')
  match name, t.drop name.length with
  | c :: cs, '>' :: u =>
    if isNameChar true c && cs.all (isNameChar false) then
      if taken.contains name then .error .groupNameTaken else .ok (name, u)
    else .error .groupNameInvalid
  | [], '>' :: _ => .error .groupNameEmpty
  | _, _ => .error .groupUnclosed

/-- The reader in a new group. -/
def push (r : Reader) (f : Flags) : Reader :=
  { r with group := { flags := f }, outer := r.group :: r.outer }

/-- The reader in a new group whose pieces are remembered. -/
def pushNumbered (r : Reader) : Reader :=
  let n := r.count + 1
  { r with
    group := { flags := r.group.flags, number := n }, outer := r.group :: r.outer, count := n }

/-- Opens a group that has a name. -/
def openNamed (r : Reader) (t : Text) : Except Fault (Reader × Text) := do
  let (name, u) ← readName r.names t
  .ok ({ r.pushNumbered with names := name :: r.names }, u)

/-- Opens a group or sets flags, from behind the opening parenthesis. -/
def openGroup (r : Reader) (t : Text) : Except Fault (Reader × Text) :=
  let f := r.group.flags
  match f.skip t with
  | '?' :: '=' :: _ | '?' :: '!' :: _ | '?' :: '<' :: '=' :: _ | '?' :: '<' :: '!' :: _ =>
    .error .lookAround
  | '?' :: 'P' :: '<' :: u => r.openNamed u
  | '?' :: '<' :: u => r.openNamed u
  | '?' :: u => do
    let (g, isGroup, v) ← f.read [] u
    if isGroup then .ok (r.push g, v)
    else
      .ok ({ r with group := { r.group.add ⟨none, 0⟩ with flags := g } }, v)
  | u => .ok (r.pushNumbered, u)

/-- Closes the group that is being read. -/
def closeGroup (r : Reader) : Except Fault Reader :=
  match r.outer with
  | [] => .error .groupUnopened
  | g :: outer => .ok { r with group := g.add r.group.value, outer := outer }

/-! ## The parts one after the other -/

/-- The reader with one more part. -/
def add (r : Reader) (a : Expr) (depth : Nat := 0) : Reader :=
  { r with group := r.group.add ⟨a, depth⟩ }

/-- Reads the part that starts with `c`, from behind it. -/
def readPart (r : Reader) (c : Char) (t : Text) : Except Fault (Reader × Text) := do
  let f := r.group.flags
  let repeatLast (least : Nat) (most : Option Nat) (isLazy : Bool) (u : Text) :
      Except Fault (Reader × Text) := do
    .ok ({ r with group := ← r.group.repeatLast (!isLazy) least most }, u)
  match c with
  | '(' => r.openGroup t
  | ')' => .ok (← r.closeGroup, t)
  | '|' => .ok ({ r with group := r.group.nextBranch }, t)
  | '[' =>
    let (s, u) ← readBrackets f t
    .ok (r.add (.ofSet (!f.unicode) s.set) s.depth, u)
  | '?' => repeatLast 0 (some 1) (takeLazy t).1 (takeLazy t).2
  | '*' => repeatLast 0 none (takeLazy t).1 (takeLazy t).2
  | '+' => repeatLast 1 none (takeLazy t).1 (takeLazy t).2
  | '{' =>
    let (least, most, isLazy, u) ← readCounts f t
    repeatLast least most isLazy u
  | '\\' =>
    let (a, u) ← readEscape f t
    .ok (r.add (← atomExpr f a), u)
  | '.' => .ok (r.add (← dotExpr f), t)
  | '^' => .ok (r.add (.look (startLook f)), t)
  | '$' => .ok (r.add (.look (endLook f)), t)
  | c => .ok (r.add (← charExpr f c false), t)

/-- The expression that has been read, if no group is open. -/
def finish (r : Reader) : Except Fault Expr :=
  match r.outer with
  | [] =>
    let part := r.group.body
    if depthLimit < part.depth then .error .tooDeep else .ok (part.expr.getD .empty)
  | _ => .error .groupUnclosed

/-- Reads the parts of a text.  Each takes a character or more, so the length of the text is fuel
enough. -/
def readParts : (fuel : Nat) → Reader → Text → Except Fault Expr
  | 0, r, _ => r.finish
  | fuel + 1, r, t =>
    match r.group.flags.skip t with
    | [] => r.finish
    | c :: u => do
      let (r, v) ← r.readPart c u
      readParts fuel r v

end Reader

/-- Reads an expression under flags. -/
def Expr.read (f : Flags) (t : Text) : Except Fault Expr :=
  Reader.readParts (t.length + 1) { group := { flags := f } } t

end Descent.Regex
