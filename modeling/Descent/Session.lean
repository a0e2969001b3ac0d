import Descent.Log
import Descent.Recipe

/-!
# Sessions

A session is a run of steps in which parsers and grammars are built, kept under names and run.  A
step that fails leaves the session as it was.

A session also has a *cursor*, a text that parsers are run at one after the other, each where the
one before has stopped.
-/

namespace Descent

/-! ## Steps and answers -/

/-- What is known of a parser without running it. -/
structure Info where
  /-- What the parser matches. -/
  expected : Text
  /-- Its name. -/
  name : Option Text
  /-- Its label. -/
  label : Text
  /-- Whether it has a definition. -/
  isDefined : Bool
  /-- Its debug text. -/
  debugText : Text
deriving DecidableEq, Repr

/-- What is known of a parser under the rules of a book. -/
def RuleBook.info {M : Type} (b : RuleBook M) (p : Parser M) : Info :=
  ⟨p.expected, p.name?, p.label, b.isDefined p, p.debugText⟩

/-- A step of a session. -/
inductive Step (M : Type) where
  /-- Builds a parser and keeps it. -/
  | build (id : Text) (recipe : Recipe M)
  /-- Declares a rule and keeps it. -/
  | declare (id name : Text)
  /-- Builds a parser and makes it the definition of a rule. -/
  | define (id : Text) (recipe : Recipe M)
  /-- Asks what is known of a parser. -/
  | info (id : Text)
  /-- Seals a parser and keeps the grammar. -/
  | seal (id target : Text)
  /-- Keeps the root of a grammar as a parser. -/
  | unseal (id target : Text)
  /-- Runs a parser. -/
  | parse (id input : Text)
  /-- Runs a grammar. -/
  | parseGrammar (id input : Text)
  /-- Sets the cursor. -/
  | setCursor (text : Text)
  /-- Runs a parser at the cursor, which a match moves on. -/
  | next (id : Text)

/-- What a step answers. -/
inductive Answer (M : Type) where
  /-- The step is done. -/
  | done
  /-- What is known of a parser. -/
  | info (i : Info)
  /-- What is known of the root of a grammar, and the debug text of the grammar. -/
  | grammar (root : Info) (debugText : Text)
  /-- How a run ends. -/
  | outcome (o : Outcome M)
  /-- The step fails. -/
  | problem (p : Problem)

/-! ## Sessions -/

/-- The state of a session. -/
structure Session (M : Type) where
  /-- The rules declared and defined. -/
  book : RuleBook M
  /-- The parsers kept, the latest first. -/
  parsers : List (Text × Parser M)
  /-- The grammars kept, the latest first. -/
  grammars : List (Text × Grammar M)
  /-- The cursor. -/
  cursor : Text
  /-- The depth of calls in the log. -/
  depth : Nat

/-- What a step leads to. -/
structure Reply (M : Type) where
  /-- The answer. -/
  answer : Answer M
  /-- The lines logged. -/
  log : List Log.Line
  /-- The session after the step. -/
  session : Session M

namespace Session

variable {M : Type}

/-- The session at its start. -/
def start : Session M := ⟨.empty, [], [], [], 0⟩

/-- The parser kept under a name. -/
def parser? (s : Session M) (id : Text) : Option (Parser M) := s.parsers.lookup id

/-- The grammar kept under a name. -/
def grammar? (s : Session M) (id : Text) : Option (Grammar M) := s.grammars.lookup id

/-- The session with a parser kept under a name. -/
def keep (s : Session M) (id : Text) (p : Parser M) : Session M :=
  { s with parsers := (id, p) :: s.parsers }

/-- The reply that fails. -/
def fail (s : Session M) (p : Problem) : Reply M := ⟨.problem p, [], s⟩

/-- The reply of a run of a parser. -/
def reply (s : Session M) (level : Log.Level) (r : Run M) : Reply M :=
  let (lines, depth) := Log.ofRun level s.depth r
  ⟨.outcome r.outcome, lines, { s with depth := depth }⟩

/-- Defines the rule kept under a name. -/
def define (s : Session M) (level : Log.Level) (handle definition : Parser M) : Reply M :=
  match s.book.define handle definition with
  | .error e => s.fail (.grammar e)
  | .ok book =>
    let lines := handle.asRule?.toList.map Log.definedLine
    ⟨.done, level.keep lines, { s with book := book }⟩

/-- Seals a parser and keeps the grammar. -/
def sealAs (s : Session M) (level : Log.Level) (p : Parser M) (target : Text) : Reply M :=
  match s.book.seal p with
  | .error e => s.fail (.grammar e)
  | .ok g =>
    ⟨.grammar (s.book.info g.root) g.debugText,
      level.keep [Log.sealedLine p.label g.rules.length],
      { s with grammars := (target, g) :: s.grammars }⟩

/-- Goes on with what is kept under a name. -/
def withKept {α : Type} (s : Session M) (id : Text) (kept : Option α) (k : α → Reply M) :
    Reply M :=
  match kept with
  | some a => k a
  | none => s.fail (.missing id)

/-- Goes on with the parser of a recipe. -/
def withBuilt (s : Session M) (recipe : Recipe M) (k : Parser M → Reply M) : Reply M :=
  match recipe.build s.parser? with
  | .ok p => k p
  | .error e => s.fail e

/-- Takes a step. -/
def step (s : Session M) (level : Log.Level) : Step M → Reply M
  | .build id recipe => s.withBuilt recipe fun p => ⟨.info (s.book.info p), [], s.keep id p⟩
  | .declare id name =>
    let (r, book) := s.book.declare name
    ⟨.info (book.info (.rule r)), [], { s with book := book }.keep id (.rule r)⟩
  | .define id recipe =>
    s.withBuilt recipe fun d => s.withKept id (s.parser? id) fun p => s.define level p d
  | .info id => s.withKept id (s.parser? id) fun p => ⟨.info (s.book.info p), [], s⟩
  | .seal id target => s.withKept id (s.parser? id) fun p => s.sealAs level p target
  | .unseal id target =>
    s.withKept id (s.grammar? id) fun g =>
      ⟨.info (s.book.info g.root), [], s.keep target g.root⟩
  | .parse id input =>
    s.withKept id (s.parser? id) fun p => s.reply level (s.book.run p input)
  | .parseGrammar id input =>
    s.withKept id (s.grammar? id) fun g => s.reply level (s.book.run g.root input)
  | .setCursor text => ⟨.done, [], { s with cursor := text }⟩
  | .next id =>
    s.withKept id (s.parser? id) fun p =>
      let r := s.book.run p s.cursor
      match r.outcome with
      | .matched m => { s with cursor := m.rest }.reply level r
      | _ => s.reply level r

/-- Takes steps one after the other. -/
def steps (s : Session M) (level : Log.Level) : List (Step M) → List (Reply M)
  | [] => []
  | st :: sts =>
    let r := s.step level st
    r :: r.session.steps level sts

end Session

end Descent
