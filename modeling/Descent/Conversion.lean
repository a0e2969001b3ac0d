import Descent.Datum
import Descent.Parser
import Descent.Text.Numeral

/-!
# Conversions

A *conversion* takes a value with data in it to another; where it has nothing to say about a value
it leaves it as it is.  A *check* is a conversion that may reject its value, and then gives the
reason.  The largest check builds an element of a document from what its parser has put out: the
names of the opening and the closing tag, the attributes, and what stands between the tags.
-/

namespace Descent

/-! ## Conversions -/

/-- A conversion of every value. -/
inductive Conversion where
  /-- The value itself. -/
  | id
  /-- Nothing. -/
  | unit
  /-- A token read as an integer, zero where it is none. -/
  | int
  /-- An integer plus one. -/
  | inc
  /-- An integer less one. -/
  | dec
  /-- A token as a text, without the blanks at its end. -/
  | text
  /-- A sequence from back to front. -/
  | reverse
  /-- The items as a sequence. -/
  | items
  /-- The sequence of the value alone. -/
  | wrap
  /-- The value between units. -/
  | wrapUnit
  /-- The value joined with itself. -/
  | dup
  /-- The first item. -/
  | head
  /-- The number of items. -/
  | count
  /-- The sum of the items that are integers. -/
  | sum
  /-- The tokens as a list of texts. -/
  | tokens
  /-- The text that displays the value. -/
  | display
  /-- An attribute of two tokens. -/
  | attr
  /-- Gives up, with a message. -/
  | abort (message : Text)
deriving DecidableEq, Repr

namespace Conversion

/-- The value that a conversion makes of a value, unless it gives up. -/
def apply : Conversion → Value Datum → Except Abort (Value Datum)
  | id, v => .ok v
  | unit, _ => .ok .unit
  | int, .token t => .ok (.mapped (.int (Int64.ofInt ((Numeral.read .word t).toOption.getD 0))))
  | inc, .mapped (.int n) => .ok (.mapped (.int (n + 1)))
  | dec, .mapped (.int n) => .ok (.mapped (.int (n - 1)))
  | text, .token t => .ok (.mapped (.text t.trimEnd))
  | reverse, .sequence vs => .ok (.sequence vs.reverse)
  | items, v => .ok (.sequence v.items)
  | wrap, v => .ok (.sequence [v])
  | wrapUnit, v => .ok (.sequence [.unit, v, .unit])
  | dup, v => .ok (v.join v)
  | head, v => .ok (v.items.headD .unit)
  | count, v => .ok (.mapped (.int (Int64.ofNat v.items.length)))
  | sum, v => .ok (.mapped (.int ((v.items.filterMap Datum.int?).foldl (· + ·) 0)))
  | tokens, v => .ok (.mapped (.list (v.tokens.map .text)))
  | display, v => .ok (.mapped (.text v.display))
  | attr, v =>
    match v.tokens with
    | [name, value] => .ok (.mapped (.attr name value))
    | _ => .ok .unit
  | abort message, _ => .error ⟨message⟩
  | _, v => .ok v

end Conversion

/-- A conversion that may reject its value. -/
inductive Check where
  /-- A token read as an integer of eight bits. -/
  | byte
  /-- A token read as an integer of sixty-four bits. -/
  | word
  /-- A value that has tokens. -/
  | nonempty
  /-- Rejects every value, for a given reason. -/
  | reject (reason : Text)
  /-- An element, of the items of a value. -/
  | node
deriving DecidableEq, Repr

/-- The parts of an element, in the order in which they stand among the items of a value. -/
structure Element where
  /-- The names, of the tokens. -/
  names : List Text
  /-- The attributes. -/
  attrs : List (Text × Text)
  /-- All other data. -/
  children : List Datum

namespace Element

/-- The parts that items are. -/
def ofItems : List (Value Datum) → Element
  | [] => ⟨[], [], []⟩
  | v :: vs =>
    let e := ofItems vs
    match v with
    | .token name => { e with names := name :: e.names }
    | .mapped (.attr k w) => { e with attrs := (k, w) :: e.attrs }
    | .mapped d => { e with children := d :: e.children }
    | _ => e

/-- The element, if it is opened and closed under one name. -/
def close (e : Element) : Except Refusal (Value Datum) :=
  match e.names with
  | [first, last] =>
    if first = last then .ok (.mapped (.node first e.attrs e.children))
    else .error (.reject
      (['<'] ++ first ++ "> closed by </".toList ++ last ++ ['>']))
  | names =>
    .error (.reject ("malformed element ".toList ++ bracketed (names.map Text.quoted)))

end Element

namespace Check

/-- A token read as an integer of a range. -/
def readToken (range : IntRange) (t : Text) : Except Refusal (Value Datum) :=
  match Numeral.read range t with
  | .ok n => .ok (.mapped (.int (Int64.ofInt n)))
  | .error fault => .error (.reject fault.message.toList)

/-- The value that a check makes of a value, unless it rejects it. -/
def apply : Check → Value Datum → Except Refusal (Value Datum)
  | byte, .token t => readToken .byte t
  | word, .token t => readToken .word t
  | nonempty, v => if v.tokens = [] then .error (.reject "no tokens".toList) else .ok v
  | reject reason, _ => .error (.reject reason)
  | node, v => (Element.ofItems v.items).close
  | _, v => .ok v

end Check

end Descent
