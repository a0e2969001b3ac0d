import Descent.Property
import Descent.Regex.Expr
import Descent.Regex.Flags

/-!
# Characters and escapes

An *atom* is a part of an expression that a character or an escape makes: a character, a class of
characters that the escape names, or a place.  A backslash takes the meaning of a character away
from it, and gives one to a letter.

Readers take the text from behind what has been read and return it from behind what they have read.
Blanks and comments may stand inside an escape where they are skipped at all.
-/

namespace Descent.Regex

/-- A part of an expression that a character or an escape makes. -/
inductive Atom where
  /-- A character.  `narrow` says that two hexadecimal digits give it. -/
  | char (c : Char) (narrow : Bool)
  /-- A class of characters. -/
  | set (s : CharSet)
  /-- A place. -/
  | look (l : Look)

/-! ## Escapes -/

/-- A character that has a meaning of its own in expressions. -/
def isMeta (c : Char) : Bool := "\\.+*?()|[]\x7b\x7d^$#&-~".toList.contains c

/-- A character that stands for itself behind a backslash: any of ASCII that is no letter, no digit
and no angle bracket. -/
def isEscapable (c : Char) : Bool :=
  isMeta c || (c.toNat < 128 && !c.isAlphanum && c != '<' && c != '>')

/-- The character that hexadecimal digits give. -/
def charOfHex (digits : Text) : Except Fault Char :=
  let n := Hex.value digits
  if h : n.isValidChar then .ok (Char.ofNatAux n h) else .error .hexValue

/-- Reads so many hexadecimal digits, given those read so far, last first. -/
def readHexDigits (f : Flags) (digits : Text) : Nat → Text → Except Fault (Text × Text)
  | 0, t => .ok (digits.reverse, t)
  | n + 1, t =>
    match t with
    | [] => .error .escapeUnclosed
    | c :: t =>
      if (Hex.digit? c).isSome then readHexDigits f (c :: digits) n (f.skip t)
      else .error .hexDigit

/-- Reads hexadecimal digits up to a closing brace, with as many rounds as there are characters. -/
def readHexBraced (f : Flags) (digits : Text) : (fuel : Nat) → Text → Except Fault (Text × Text)
  | 0, _ => .error .escapeUnclosed
  | fuel + 1, t =>
    match t with
    | [] => .error .escapeUnclosed
    | c :: t =>
      if c = '}' then
        if digits.isEmpty then .error .hexEmpty else .ok (digits.reverse, f.skip t)
      else if (Hex.digit? c).isSome then readHexBraced f (c :: digits) fuel (f.skip t)
      else .error .hexDigit

/-- Reads a character given by so many hexadecimal digits, or by any number of them in braces. -/
def readHex (f : Flags) (width : Nat) (t : Text) : Except Fault (Atom × Text) := do
  match f.skip t with
  | [] => .error .escapeUnclosed
  | '{' :: t =>
    let (digits, t) ← readHexBraced f [] (t.length + 1) (f.skip t)
    .ok (.char (← charOfHex digits) false, t)
  | t =>
    let (digits, t) ← readHexDigits f [] width t
    .ok (.char (← charOfHex digits) (width == 2), t)

/-- The text with the blanks and comments skipped before each of its characters, up to the closing
brace, and what follows the brace. -/
def readBraced (f : Flags) (name : Text) : (fuel : Nat) → Text → Except Fault (Text × Text)
  | 0, _ => .error .escapeUnclosed
  | fuel + 1, t =>
    match t with
    | [] => .error .escapeUnclosed
    | c :: t =>
      if c = '}' then .ok (name.reverse, t) else readBraced f (c :: name) fuel (f.skip t)

/-- What stands before and behind the first place where `mark` stands. -/
def splitAt? (mark : Text) : (before t : Text) → Option (Text × Text)
  | before, t =>
    match Text.after? mark t with
    | some u => some (before.reverse, u)
    | none =>
      match t with
      | [] => none
      | c :: t => splitAt? mark (c :: before) t

/-- The property that a name between braces names, and whether it is to be negated. -/
def propertyOf? (name : Text) : Option (CharSet × Bool) :=
  match splitAt? ['!', '='] [] name with
  | some (family, value) => (Property.valueNamed? family value).map (·, true)
  | none =>
    match splitAt? [':'] [] name with
    | some (family, value) => (Property.valueNamed? family value).map (·, false)
    | none =>
      match splitAt? ['='] [] name with
      | some (family, value) => (Property.valueNamed? family value).map (·, false)
      | none => (Property.named? name).map (·, false)

/-- The set of a property, closed under case where case does not matter. -/
def propertySet (f : Flags) (negated : Bool) (name : Text) : Except Fault CharSet :=
  if f.unicode then
    match propertyOf? name with
    | none => .error .propertyUnknown
    | some (s, negatedToo) =>
      let s := if f.caseless then s.fold else s
      .ok (if negated != negatedToo then s.compl else s)
  else .error .beyondAscii

/-- Reads the name of a property, one letter or a name in braces. -/
def readProperty (f : Flags) (negated : Bool) (t : Text) : Except Fault (Atom × Text) := do
  match f.skip t with
  | [] => .error .escapeUnclosed
  | '{' :: t =>
    let (name, t) ← readBraced f [] (t.length + 1) (f.skip t)
    .ok (.set (← propertySet f negated name), t)
  | '\\' :: _ => .error .propertyUnknown
  | c :: t => .ok (.set (← propertySet f negated [c]), f.skip t)

/-- A class that one letter names. -/
def letterSet (f : Flags) (negated : Bool) (wide narrow : CharSet) : Except Fault Atom :=
  if f.unicode then .ok (.set (if negated then wide.compl else wide))
  else if negated then .error .beyondAscii
  else .ok (.set narrow)

/-- The letters and hyphens of a word boundary's kind, given those read so far, last first. -/
def readKind (f : Flags) (kind : Text) : (fuel : Nat) → Text → Text × Text
  | 0, t => (kind.reverse, t)
  | fuel + 1, t =>
    match t with
    | c :: u =>
      if c.isAlpha || c == '-' then readKind f (c :: kind) fuel (f.skip u) else (kind.reverse, t)
    | [] => (kind.reverse, [])

/-- Reads what may follow the letter of a word boundary: its kind in braces.  Braces around
anything else are left alone. -/
def readBoundary (f : Flags) (t : Text) : Except Fault (Atom × Text) :=
  match t with
  | '{' :: u =>
    match f.skip u with
    | [] => .error .boundaryUnknown
    | c :: v =>
      if c.isAlpha || c == '-' then
        match readKind f [] (v.length + 1) (c :: v) with
        | (kind, '}' :: w) =>
          match String.ofList kind with
          | "start" => .ok (.look (.wordStart !f.unicode), w)
          | "end" => .ok (.look (.wordEnd !f.unicode), w)
          | "start-half" => .ok (.look (.wordStartHalf !f.unicode), w)
          | "end-half" => .ok (.look (.wordEndHalf !f.unicode), w)
          | _ => .error .boundaryUnknown
        | _ => .error .boundaryUnknown
      else .ok (.look (.boundary !f.unicode), t)
  | _ => .ok (.look (.boundary !f.unicode), t)

/-- Reads an escape, from behind the backslash. -/
def readEscape (f : Flags) : Text → Except Fault (Atom × Text)
  | [] => .error .escapeUnclosed
  | c :: t =>
    if isEscapable c then .ok (.char c false, t)
    else if c.isDigit then .error .backReference
    else
      match c with
      | 'x' => readHex f 2 t
      | 'u' => readHex f 4 t
      | 'U' => readHex f 8 t
      | 'p' => readProperty f false t
      | 'P' => readProperty f true t
      | 'd' => (letterSet f false Property.digits (.range '0' '9')).map (·, t)
      | 'D' => (letterSet f true Property.digits (.range '0' '9')).map (·, t)
      | 's' => (letterSet f false Property.blank .asciiBlank).map (·, t)
      | 'S' => (letterSet f true Property.blank .asciiBlank).map (·, t)
      | 'w' => (letterSet f false Property.word .asciiWord).map (·, t)
      | 'W' => (letterSet f true Property.word .asciiWord).map (·, t)
      | 'a' => .ok (.char '\x07' false, t)
      | 'f' => .ok (.char '\x0c' false, t)
      | 't' => .ok (.char '\t' false, t)
      | 'n' => .ok (.char '\n' false, t)
      | 'r' => .ok (.char '\r' false, t)
      | 'v' => .ok (.char '\x0b' false, t)
      | 'A' => .ok (.look .textStart, t)
      | 'z' => .ok (.look .textEnd, t)
      | 'b' => readBoundary f t
      | 'B' => .ok (.look (.noBoundary !f.unicode), t)
      | '<' => .ok (.look (.wordStart !f.unicode), t)
      | '>' => .ok (.look (.wordEnd !f.unicode), t)
      | _ => .error .escapeUnknown

end Descent.Regex
