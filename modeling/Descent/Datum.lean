import Descent.Value

/-!
# Data

A *datum* is what the tokens of a document are converted into: an integer of sixty-four bits, a
text, a list, an attribute, or an element with its attributes and what it contains.
-/

namespace Descent

/-- A piece of data. -/
inductive Datum where
  /-- An integer of sixty-four bits. -/
  | int (value : Int64)
  /-- A text. -/
  | text (value : Text)
  /-- A list. -/
  | list (items : List Datum)
  /-- A name with a value. -/
  | attr (name value : Text)
  /-- An element: its name, its attributes, and what it contains. -/
  | node (name : Text) (attrs : List (Text × Text)) (children : List Datum)
deriving Inhabited, BEq

namespace Datum

/-- A pair of texts in parentheses. -/
def debugPair (p : Text × Text) : Text :=
  ['('] ++ p.1.quoted ++ [',', ' '] ++ p.2.quoted ++ [')']

mutual

/-- The form that names the constructors. -/
def debugText : Datum → Text
  | int n => debugCall "Int" (toString n.toInt).toList
  | text t => debugCall "Text" t.quoted
  | list ds => debugCall "List" (bracketed (debugTexts ds))
  | attr k v => debugCall "Attr" (k.quoted ++ [',', ' '] ++ v.quoted)
  | node name attrs ds =>
    debugRecord "Node"
      [("name", name.quoted), ("attrs", bracketed (attrs.map debugPair)),
       ("children", bracketed (debugTexts ds))]

/-- The forms of data. -/
def debugTexts : List Datum → List Text
  | [] => []
  | d :: ds => debugText d :: debugTexts ds

end

instance : Debug Datum := ⟨debugText⟩

/-- The integer of a value that is one. -/
def int? : Value Datum → Option Int64
  | .mapped (.int n) => some n
  | _ => none

end Datum

end Descent
