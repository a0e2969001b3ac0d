import Descent.Regex.Atom

/-!
# Classes in brackets

The items of a class stand in brackets: characters, ranges, escapes, named ASCII classes, and
classes in brackets of their own.  Items that stand side by side are joined.  The operators `&&`,
`--` and `~~` take all that stands left of them and all that stands right of them up to the next
one, so they group from the left.  A circumflex in front negates the whole class.

Beside its set a class has a depth, which is bounded for the expression as a whole.  An item in
brackets is one level deeper than what the brackets hold, and so are items side by side than the
deepest of them and an operator than its deeper side.
-/

namespace Descent.Regex

/-! ## Sets under flags -/

/-- How the sides of an operator in a class are put together. -/
inductive SetOp where
  /-- What both sides have. -/
  | inter
  /-- What the left side has and the right side does not. -/
  | diff
  /-- What exactly one side has. -/
  | symmDiff

/-- The set that an operator makes of its sides. -/
def SetOp.apply : SetOp → CharSet → CharSet → CharSet
  | inter, a, b => a.inter b
  | diff, a, b => a.diff b
  | symmDiff, a, b => a.symmDiff b

/-- A set closed under case where case does not matter. -/
def caseClosed (f : Flags) (s : CharSet) : CharSet :=
  if f.caseless then if f.unicode then s.fold else s.fold.inter .ascii else s

/-- A set closed under case and, if asked, negated.  A negated set goes beyond ASCII. -/
def closedSet (f : Flags) (negated : Bool) (s : CharSet) : Except Fault CharSet :=
  if negated then if f.unicode then .ok (caseClosed f s).compl else .error .beyondAscii
  else .ok (caseClosed f s)

/-- A set with the depth of the class that gives it. -/
structure NestedSet where
  /-- The set. -/
  set : CharSet
  /-- The depth of the class. -/
  depth : Nat

/-! ## Open classes -/

/-- Items of a class that stand side by side. -/
structure Items where
  /-- What the items have. -/
  set : CharSet := .none
  /-- The number of the items. -/
  count : Nat := 0
  /-- The depth of the deepest item. -/
  deepest : Nat := 0

/-- The items with one more, of a depth. -/
def Items.add (is : Items) (s : CharSet) (depth : Nat) : Items :=
  ⟨is.set.union s, is.count + 1, max is.deepest depth⟩

/-- The set of the items. -/
def Items.nested (is : Items) : NestedSet :=
  ⟨is.set, if 1 < is.count then is.deepest + 1 else is.deepest⟩

/-- An open class. -/
structure OpenClass where
  /-- Whether the class is negated. -/
  negated : Bool
  /-- What stands left of the last operator, with the operator. -/
  left : Option (NestedSet × SetOp) := none
  /-- The items behind the last operator. -/
  items : Items := {}

namespace OpenClass

/-- The class with one more item, of a depth. -/
def add (k : OpenClass) (s : CharSet) (depth : Nat := 0) : OpenClass :=
  { k with items := k.items.add s depth }

/-- What the class has so far, the last operator taken. -/
def value (f : Flags) (k : OpenClass) : NestedSet :=
  match k.left with
  | none => k.items.nested
  | some (s, op) =>
    let t := k.items.nested
    ⟨op.apply (caseClosed f s.set) (caseClosed f t.set), max s.depth t.depth + 1⟩

/-- The class with what it has so far as the left side of an operator. -/
def operate (f : Flags) (op : SetOp) (k : OpenClass) : OpenClass :=
  { k with left := some (k.value f, op), items := {} }

/-- The set of the class. -/
def close (f : Flags) (k : OpenClass) : Except Fault NestedSet := do
  let s := k.value f
  .ok ⟨← closedSet f k.negated s.set, s.depth + 1⟩

end OpenClass

/-- The set of one character in a class. -/
def charSet (f : Flags) (c : Char) : Except Fault CharSet :=
  if f.unicode || c.toNat < 128 then .ok (.single c) else .error .beyondAscii

/-! ## Reading a class -/

/-- Takes the hyphens that a class starts with as characters. -/
def readHyphens (f : Flags) (k : OpenClass) : (fuel : Nat) → Text → Except Fault (OpenClass × Text)
  | 0, _ => .error .classUnclosed
  | fuel + 1, t =>
    match t with
    | [] => .error .classUnclosed
    | '-' :: t => readHyphens f (k.add (.single '-')) fuel (f.skip t)
    | t => .ok (k, t)

/-- Opens a class, from behind its bracket.  A closing bracket that nothing stands before is a
character of the class. -/
def openClass (f : Flags) (t : Text) : Except Fault (OpenClass × Text) := do
  let (negated, t) := match f.skip t with
    | '^' :: u => (true, f.skip u)
    | u => (false, u)
  let (k, u) ← readHyphens f { negated } (t.length + 1) t
  match u with
  | ']' :: v =>
    if u.length = t.length then
      match f.skip v with
      | [] => .error .classUnclosed
      | v => .ok (k.add (.single ']'), v)
    else .ok (k, u)
  | _ => .ok (k, u)

/-- The named ASCII class that stands behind an opening bracket, and what follows it. -/
def asciiClass? (f : Flags) (t : Text) : Option (Except Fault CharSet × Text) :=
  match t with
  | ':' :: t =>
    let (negated, t) := match t with
      | '^' :: u => (true, u)
      | u => (false, u)
    match t.dropWhile (· != ':') with
    | ':' :: ']' :: u =>
      (CharSet.asciiNamed? (t.takeWhile (· != ':'))).map fun s => (closedSet f negated s, u)
    | _ => none
  | _ => none

/-- Reads a character or an escape. -/
def readAtom (f : Flags) : Text → Except Fault (Atom × Text)
  | [] => .error .classUnclosed
  | '\\' :: t => readEscape f t
  | c :: t => .ok (.char c false, t)

/-- Reads an item of a class: a character, a class that an escape names, or a range. -/
def readItem (f : Flags) (t : Text) : Except Fault (CharSet × Text) := do
  let (a, t) ← readAtom f t
  match f.skip t with
  | [] => .error .classUnclosed
  | '-' :: u =>
    if f.peek? u = some ']' ∨ f.peek? u = some '-' then
      .ok (← single a, '-' :: u)
    else
      let (b, v) ← readAtom f (f.skip u)
      match a, b with
      | .char lo _, .char hi _ =>
        if lo ≤ hi then
          let _ ← charSet f lo
          let _ ← charSet f hi
          .ok (.range lo hi, v)
        else .error .rangeReversed
      | _, _ => .error .rangeEnd
  | u => .ok (← single a, u)
where
  /-- The set of an atom that stands in a class. -/
  single : Atom → Except Fault CharSet
    | .char c _ => charSet f c
    | .set s => .ok s
    | .look _ => .error .classItem

/-- Reads the rest of a class, given the class that is open and those around it, the nearest
first. -/
def readClass (f : Flags) : (fuel : Nat) → (outer : List OpenClass) → OpenClass → Text →
    Except Fault (NestedSet × Text)
  | 0, _, _, _ => .error .classUnclosed
  | fuel + 1, outer, k, t =>
    match f.skip t with
    | [] => .error .classUnclosed
    | '[' :: u =>
      match asciiClass? f u with
      | some (s, v) => do readClass f fuel outer (k.add (← s)) v
      | none => do
        let (inner, v) ← openClass f u
        readClass f fuel (k :: outer) inner v
    | ']' :: u => do
      let s ← k.close f
      match outer with
      | [] => .ok (s, u)
      | l :: outer => readClass f fuel outer (l.add s.set s.depth) u
    | '&' :: '&' :: u => readClass f fuel outer (k.operate f .inter) u
    | '-' :: '-' :: u => readClass f fuel outer (k.operate f .diff) u
    | '~' :: '~' :: u => readClass f fuel outer (k.operate f .symmDiff) u
    | u => do
      let (s, v) ← readItem f u
      readClass f fuel outer (k.add s) v

/-- Reads a class, from behind its bracket. -/
def readBrackets (f : Flags) (t : Text) : Except Fault (NestedSet × Text) := do
  let (k, u) ← openClass f t
  readClass f (u.length + 1) [] k u

end Descent.Regex
