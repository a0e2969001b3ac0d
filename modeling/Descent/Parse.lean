import Descent.Leaf

/-!
# Parsing

Running a parser at a text gives an *outcome* and a record of the calls that were made.  A call is
one invocation of a parser at a text; the calls that it makes in turn are recorded inside it, in
order.  The record is what the log is written from, and nothing depends on it.

A failure that is a mismatch lets choice, option and repetition try something else.  Every other
outcome that is no match passes through all of them at once.

A parser is run by recursion on its tree.  A rule is run by its definition, and there the depth of
rules inside each other is bounded by fuel.  A grammar without left recursion reads a character
before it comes back to a rule, so `RuleBook.parse` can tell from the text and the number of
definitions how much fuel is enough.
-/

namespace Descent

/-! ## Outcomes and calls -/

/-- How a run of a parser ends. -/
inductive Outcome (M : Type) where
  /-- The parser matches. -/
  | matched (m : Match M)
  /-- The parser fails. -/
  | failed (e : ParseError)
  /-- A conversion gives up. -/
  | aborted (a : Abort)
  /-- The fuel runs out. -/
  | unfinished
deriving Inhabited

/-- One invocation of a parser, with those that it makes in turn. -/
inductive Call (M : Type) where
  /-- The parser, the text it is run at, the calls that it makes, and how it ends. -/
  | mk (parser : Parser M) (input : Text) (calls : List (Call M)) (outcome : Outcome M)

/-- A run: the calls that are made, in order, and how it ends. -/
structure Run (M : Type) where
  /-- The calls. -/
  calls : List (Call M)
  /-- How the run ends. -/
  outcome : Outcome M

namespace Outcome

variable {M : Type}

/-- The outcome of a leaf. -/
def ofExcept : Except ParseError (Match M) → Outcome M
  | .ok m => matched m
  | .error e => failed e

end Outcome

namespace Run

variable {M : Type}

/-- The run that makes no calls. -/
def pure (o : Outcome M) : Run M := ⟨[], o⟩

/-- The run with other calls before its own. -/
def after (calls : List (Call M)) (r : Run M) : Run M := ⟨calls ++ r.calls, r.outcome⟩

/-- The run as a single call of a parser at a text. -/
def asCall (p : Parser M) (t : Text) (r : Run M) : Run M :=
  ⟨[.mk p t r.calls r.outcome], r.outcome⟩

@[simp] theorem outcome_pure (o : Outcome M) : (pure o).outcome = o := rfl

@[simp] theorem calls_pure (o : Outcome M) : (pure o).calls = [] := rfl

@[simp] theorem outcome_after (cs : List (Call M)) (r : Run M) :
    (r.after cs).outcome = r.outcome := rfl

@[simp] theorem calls_after (cs : List (Call M)) (r : Run M) :
    (r.after cs).calls = cs ++ r.calls := rfl

@[simp] theorem outcome_asCall (p : Parser M) (t : Text) (r : Run M) :
    (r.asCall p t).outcome = r.outcome := rfl

@[simp] theorem calls_asCall (p : Parser M) (t : Text) (r : Run M) :
    (r.asCall p t).calls = [.mk p t r.calls r.outcome] := rfl

/-- Goes on where the run matches. -/
def onMatch (r : Run M) (k : Match M → Run M) : Run M :=
  match r.outcome with
  | .matched m => (k m).after r.calls
  | _ => r

/-- Goes on where the run fails with a mismatch. -/
def onMismatch (r : Run M) (k : ParseError → Run M) : Run M :=
  match r.outcome with
  | .failed e => if e.isRecoverable then (k e).after r.calls else r
  | _ => r

/-! ## Repetition -/

/-- Runs further elements of a repetition, given the items so far, the text before the last element
and the text behind it.  `next` gives the text at which an element may start.  The repetition ends
where nothing is left, where the last element has not made the rest smaller, where no element may
start, and at a mismatch.  Each round makes the rest smaller, so its size is fuel enough. -/
def further (element : Text → Run M) (next : Text → Option Text) :
    (fuel : Nat) → (items : List (Value M)) → (before rest : Text) → Run M
  | 0, items, _, rest => pure (.matched ⟨.sequence items, rest⟩)
  | fuel + 1, items, before, rest =>
    if Text.size rest < Text.size before ∧ rest ≠ [] then
      match next rest with
      | none => pure (.matched ⟨.sequence items, rest⟩)
      | some t =>
        let r := element t
        match r.outcome with
        | .matched m =>
          (further element next fuel (items ++ m.output.solidItems) rest m.rest).after r.calls
        | .failed e =>
          if e.isRecoverable then ⟨r.calls, .matched ⟨.sequence items, rest⟩⟩ else r
        | _ => r
    else pure (.matched ⟨.sequence items, rest⟩)

/-- Runs the elements of a repetition behind the first, which has matched at a text. -/
def repeatFrom (element : Text → Run M) (next : Text → Option Text) (t : Text) (m : Match M) :
    Run M :=
  further element next (Text.size t) m.output.solidItems t m.rest

end Run

/-! ## Parsers -/

namespace Parser

variable {M : Type}

/-- Where an element may start behind a separator: at any text that is not empty. -/
def elementAfter? (sep t : Text) : Option Text :=
  match Text.afterSeparator? sep t with
  | some (c :: u) => some (c :: u)
  | _ => none

/-- Runs a parser at a text.  The calls that it makes are recorded, its own is not.  `resolve` says
how rules are run. -/
def body (resolve : Rule → Text → Run M) : Parser M → Text → Run M
  | literal word, t => .pure (.ofExcept (Leaf.literal word t))
  | pattern source regex, t => .pure (.ofExcept (Leaf.pattern source regex t))
  | custom _ match?, t => .pure (.ofExcept (match? t))
  | rule r, t => resolve r t
  | seq p q, t =>
    ((p.body resolve t).asCall p t).onMatch fun m =>
      ((q.body resolve m.rest).asCall q m.rest).onMatch fun n =>
        .pure (.matched ⟨m.output.join n.output, n.rest⟩)
  | choice p q, t =>
    ((p.body resolve t).asCall p t).onMismatch fun _ =>
      ((q.body resolve t).asCall q t).onMismatch fun _ =>
        .pure (.failed (.choice (p.expected ++ "|".toList ++ q.expected) t))
  | map p f, t =>
    ((p.body resolve t).asCall p t).onMatch fun m =>
      match f m.output with
      | .ok v => .pure (.matched ⟨v, m.rest⟩)
      | .error a => .pure (.aborted a)
  | tryMap p f, t =>
    ((p.body resolve t).asCall p t).onMatch fun m =>
      match f m.output with
      | .ok v => .pure (.matched ⟨v, m.rest⟩)
      | .error (.reject reason) => .pure (.failed (.mapping p.expected t reason))
      | .error (.abort a) => .pure (.aborted a)
  | optional p, t =>
    ((p.body resolve t).asCall p t).onMismatch fun _ => .pure (.matched (.empty t))
  | many p, t =>
    ((p.body resolve t).asCall p t).onMatch fun m =>
      .repeatFrom (fun u => (p.body resolve u).asCall p u) some t m
  | sepBy p sep, t =>
    (((p.body resolve t).asCall p t).onMatch fun m =>
      .repeatFrom (fun u => (p.body resolve u).asCall p u) (elementAfter? sep) t m).onMismatch
        fun _ => .pure (.failed (.repetition p.expected t))
  | named p _, t => p.body resolve t

/-- Calls a parser at a text. -/
def call (resolve : Rule → Text → Run M) (p : Parser M) (t : Text) : Run M :=
  (p.body resolve t).asCall p t

end Parser

namespace RuleBook

variable {M : Type}

/-- Runs a rule by its definition, with rules inside each other no deeper than the fuel. -/
def resolve (b : RuleBook M) : (fuel : Nat) → Rule → Text → Run M
  | 0, _, _ => .pure .unfinished
  | fuel + 1, r, t =>
    match b.definition? r with
    | some d => d.call (b.resolve fuel) t
    | none => .pure (.failed (.unbound r.name))

/-- Fuel enough for a text where no rule comes back to itself without reading a character. -/
def parseFuel (b : RuleBook M) (t : Text) : Nat :=
  (Text.size t + 1) * (b.definitions.length + 1)

/-- Calls a parser at a text with the rules of the book. -/
def run (b : RuleBook M) (p : Parser M) (t : Text) : Run M :=
  p.call (b.resolve (b.parseFuel t)) t

/-- What a parser makes of a text. -/
def parse (b : RuleBook M) (p : Parser M) (t : Text) : Outcome M := (b.run p t).outcome

end RuleBook

end Descent
