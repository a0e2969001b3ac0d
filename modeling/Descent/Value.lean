import Descent.Text.Quoted

/-!
# Values

What a match gives is a *value*: nothing (`unit`), a piece of the input (`token`), a sequence of
values, or whatever a grammar converts its tokens into (`mapped`).

Composition keeps sequences flat.  A value is read as a list of *items*, none for `unit`, its
entries for a sequence and itself otherwise; `join` puts the items of two values one after the
other and drops the units among them.

A value is shown in two ways.  `display` is brief: tokens are quoted and sequences bracketed.
`debug` names the constructor of every part.  Both need a way to show the mapped values, an
instance of `Debug`.
-/

namespace Descent

/-- What a parser puts out, where `M` is what tokens are converted into. -/
inductive Value (M : Type) where
  /-- Nothing, such as the output of a literal. -/
  | unit
  /-- A piece of the input. -/
  | token (text : Text)
  /-- The outputs of a composition, in order. -/
  | sequence (items : List (Value M))
  /-- The result of a conversion. -/
  | mapped (value : M)
deriving Inhabited, BEq

namespace Value

variable {M : Type}

/-! ## Views -/

/-- Whether the value is `unit`. -/
def isUnit : Value M → Bool
  | unit => true
  | _ => false

/-- The text of a token. -/
def asToken? : Value M → Option Text
  | token text => some text
  | _ => none

/-- The result of a conversion. -/
def asMapped? : Value M → Option M
  | mapped m => some m
  | _ => none

/-- The value as a list: none for `unit`, the entries of a sequence, the value itself otherwise. -/
def items : Value M → List (Value M)
  | unit => []
  | sequence vs => vs
  | v => [v]

@[simp] theorem items_unit : (unit : Value M).items = [] := rfl

@[simp] theorem items_token (t : Text) : (token t : Value M).items = [token t] := rfl

@[simp] theorem items_sequence (vs : List (Value M)) : (sequence vs).items = vs := rfl

@[simp] theorem items_mapped (m : M) : (mapped m).items = [mapped m] := rfl

/-- The items that are not `unit`. -/
def solidItems (v : Value M) : List (Value M) := v.items.filter fun w => !w.isUnit

mutual

/-- The tokens of the value, depth first. -/
def tokens : Value M → List Text
  | unit => []
  | token text => [text]
  | sequence vs => tokensOfList vs
  | mapped _ => []

/-- The tokens of values, one value after the other. -/
def tokensOfList : List (Value M) → List Text
  | [] => []
  | v :: vs => tokens v ++ tokensOfList vs

end

theorem tokensOfList_eq (vs : List (Value M)) : tokensOfList vs = vs.flatMap tokens := by
  induction vs with
  | nil => rfl
  | cons v vs ih => simp [tokensOfList, ih]

@[simp] theorem tokens_unit : (unit : Value M).tokens = [] := rfl

@[simp] theorem tokens_token (t : Text) : (token t : Value M).tokens = [t] := rfl

@[simp] theorem tokens_mapped (m : M) : (mapped m).tokens = [] := rfl

@[simp] theorem tokens_sequence (vs : List (Value M)) :
    (sequence vs).tokens = vs.flatMap tokens := tokensOfList_eq vs

/-! ## Composition -/

/-- The items of both values in one sequence, without units. -/
def join (v w : Value M) : Value M :=
  sequence ((v.items ++ w.items).filter fun u => !u.isUnit)

/-- Joining puts the items that are not `unit` one after the other. -/
theorem join_eq (v w : Value M) : v.join w = sequence (v.solidItems ++ w.solidItems) := by
  simp [join, solidItems]

theorem solidItems_join (v w : Value M) :
    (v.join w).solidItems = v.solidItems ++ w.solidItems := by
  simp [join_eq, solidItems, List.filter_filter]

/-- An operation on a value. -/
inductive Edit (M : Type) where
  /-- Joins another value behind. -/
  | join (w : Value M)
  /-- Joins another value in front. -/
  | joinLeft (w : Value M)
  /-- Takes the items as a sequence. -/
  | items
  /-- Takes the value alone as a sequence. -/
  | wrap
  /-- Takes the item at a place, or `unit` where there is none. -/
  | at (n : Nat)

/-- The value after an operation. -/
def edit (v : Value M) : Edit M → Value M
  | .join w => v.join w
  | .joinLeft w => w.join v
  | .items => sequence v.items
  | .wrap => sequence [v]
  | .at n => v.items[n]?.getD unit

end Value

/-! ## Showing values -/

/-- Types whose values have a debug text. -/
class Debug (α : Type) where
  /-- The debug text. -/
  debug : α → Text

export Debug (debug)

instance : Debug Text := ⟨Text.quoted⟩

/-- Entries in brackets, divided by commas. -/
def bracketed (entries : List Text) : Text := ['['] ++ Text.joinWith [',', ' '] entries ++ [']']

/-- The debug text of a constructor with one argument. -/
def debugCall (name : String) (arg : Text) : Text := name.toList ++ ['('] ++ arg ++ [')']

/-- The debug text of a constructor with named fields. -/
def debugRecord (name : String) (fields : List (String × Text)) : Text :=
  name.toList ++ [' ', '{', ' '] ++
    Text.joinWith [',', ' '] (fields.map fun (f, t) => f.toList ++ [':', ' '] ++ t) ++ [' ', '}']

namespace Value

variable {M : Type} [Debug M]

mutual

/-- The brief form of a value. -/
def display : Value M → Text
  | unit => ['(', ')']
  | token text => text.quoted
  | sequence vs => bracketed (displays vs)
  | mapped m => debug m

/-- The brief forms of values. -/
def displays : List (Value M) → List Text
  | [] => []
  | v :: vs => display v :: displays vs

end

mutual

/-- The form of a value that names its constructors. -/
def debugText : Value M → Text
  | unit => "Unit".toList
  | token text => debugCall "Token" text.quoted
  | sequence vs => debugCall "Sequence" (bracketed (debugTexts vs))
  | mapped m => debugCall "Mapped" (debug m)

/-- The debug texts of values. -/
def debugTexts : List (Value M) → List Text
  | [] => []
  | v :: vs => debugText v :: debugTexts vs

end

instance : Debug (Value M) := ⟨debugText⟩

end Value

end Descent
