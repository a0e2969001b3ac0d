import Descent.Regex.Expr

/-!
# Programs

A regular expression is run as a *program*, a list of instructions that are numbered from zero.
A *thread* is the number of an instruction.  At each place of a text the program has a list of
threads, best first, and all of them read the next character together.  Between two characters a
thread runs through jumps, forks and looks until it stands at a `set` or at `done`; one that comes
to an instruction where a better thread has been at this place gives up.  So the work at a place is
bounded by the length of the program.

When a thread comes to `done` the piece read so far is a match, and the threads that are worse give
up.  The match of the best thread is the one that counts, so the search goes on while there are
better threads and keeps the last match that it finds.
-/

namespace Descent.Regex

/-- An instruction.  After `set` and `look` the next instruction follows. -/
inductive Instr where
  /-- Read a character of a set. -/
  | set (s : CharSet)
  /-- Go on at a place of a kind. -/
  | look (l : Look)
  /-- Go on at either instruction, the first preferred. -/
  | fork (first second : Nat)
  /-- Go on at an instruction. -/
  | jump (target : Nat)
  /-- A match has been found. -/
  | done
deriving DecidableEq, Repr, Inhabited

/-- A program. -/
structure Program where
  /-- The instructions, numbered from zero. -/
  instrs : Array Instr
deriving Repr, Inhabited

namespace Program

/-- The number of instructions. -/
def size (p : Program) : Nat := p.instrs.size

/-- The instruction of a number. -/
def instr? (p : Program) (n : Nat) : Option Instr := p.instrs[n]?

end Program

/-! ## From expressions to programs -/

/-- The fork at which a repetition goes on at `body` or leaves for `exit`. -/
def Instr.loop (greedy : Bool) (body exit : Nat) : Instr :=
  if greedy then .fork body exit else .fork exit body

namespace Expr

/-- The number of instructions of an expression. -/
def size : Expr → Nat
  | empty => 0
  | set _ _ => 1
  | word t => t.length
  | look _ => 1
  | group _ a => a.size
  | seq a b => a.size + b.size
  | alt a b => a.size + b.size + 2
  | times _ 0 none a => a.size + 2
  | times _ (least + 1) none a => (least + 1) * a.size + 1
  | times _ least (some most) a => least * a.size + (most - least) * (a.size + 1)

/-- The instructions of copies in a row, given those of one at any place and their number. -/
def copies (count size : Nat) (block : Nat → List Instr) (n : Nat) : List Instr :=
  (List.range count).flatMap fun i => block (n + i * size)

/-- The instructions of copies in a row, each of which may be the first that is left out. -/
def optionals (greedy : Bool) (count size : Nat) (block : Nat → List Instr) (n : Nat) :
    List Instr :=
  let exit := n + count * (size + 1)
  copies count (size + 1) (fun m => .loop greedy (m + 1) exit :: block (m + 1)) n

/-- The instructions of an expression, numbered from `n` on.  A match goes on behind the last.

Any number of pieces that are never empty need one fork, which the end of each piece comes back to.
Where a piece may be empty that fork would keep a thread from leaving behind an empty piece, so
there the repetition is one or more pieces or none. -/
def code : Expr → (n : Nat) → List Instr
  | empty, _ => []
  | set _ s, _ => [.set s]
  | word t, _ => t.map fun c => .set (.single c)
  | look l, _ => [.look l]
  | group _ a, n => a.code n
  | seq a b, n => a.code n ++ b.code (n + a.size)
  | alt a b, n =>
    .fork (n + 1) (n + a.size + 2) :: a.code (n + 1) ++
      .jump (n + a.size + b.size + 2) :: b.code (n + a.size + 2)
  | times greedy 0 none a, n =>
    .loop greedy (n + 1) (n + a.size + 2) :: a.code (n + 1) ++
      [if a.isSolid then .jump n else .loop greedy (n + 1) (n + a.size + 2)]
  | times greedy (least + 1) none a, n =>
    copies (least + 1) a.size a.code n ++
      [.loop greedy (n + least * a.size) (n + (least + 1) * a.size + 1)]
  | times greedy least (some most) a, n =>
    copies least a.size a.code n ++
      optionals greedy (most - least) a.size a.code (n + least * a.size)

/-- The program of an expression. -/
def program (a : Expr) : Program := ⟨(a.code 0 ++ [Instr.done]).toArray⟩

end Expr

namespace Program

/-! ## Running threads -/

/-- Runs threads up to the instructions at which they wait.  `pending` are the threads still to
run, best first, `seen` tells of each instruction whether a thread of this place has been at it, and
`found` are the threads found to wait, best last.  Each round either drops a thread or comes to an
instruction not seen before, so `fuel` of twice the length of the program and the number of threads
suffices. -/
def settle (p : Program) (before after : Option Char) :
    (fuel : Nat) → (pending : List Nat) → (seen : Array Bool) → (found : List Nat) → List Nat
  | 0, _, _, found => found.reverse
  | _, [], _, found => found.reverse
  | fuel + 1, n :: pending, seen, found =>
    if seen.getD n true then p.settle before after fuel pending seen found
    else
      let seen := seen.setIfInBounds n true
      match p.instr? n with
      | none => p.settle before after fuel pending seen found
      | some (.set _) | some .done => p.settle before after fuel pending seen (n :: found)
      | some (.look l) =>
        if l.holds before after then p.settle before after fuel ((n + 1) :: pending) seen found
        else p.settle before after fuel pending seen found
      | some (.fork i j) => p.settle before after fuel (i :: j :: pending) seen found
      | some (.jump i) => p.settle before after fuel (i :: pending) seen found

/-- The threads that wait at a place, best first, given those that come there. -/
def waiting (p : Program) (before after : Option Char) (threads : List Nat) : List Nat :=
  p.settle before after (2 * p.size + threads.length + 1) threads
    (Array.replicate p.size false) []

/-- Whether a thread has found a match. -/
def isDone (p : Program) (n : Nat) : Bool := p.instr? n == some Instr.done

/-- The threads that are left when a character has been read. -/
def advance (p : Program) (c : Char) (threads : List Nat) : List Nat :=
  threads.filterMap fun n =>
    match p.instr? n with
    | some (.set s) => if s.contains c then some (n + 1) else none
    | _ => none

/-- Runs threads through a text, from a place where `read` characters have been read.  The result
is the length of the last match found, and `best` where none is. -/
def run (p : Program) (before : Option Char) (threads : List Nat) (read : Nat)
    (best : Option Nat) : Text → Option Nat
  | [] =>
    if (p.waiting before none threads).any p.isDone then some read else best
  | c :: t =>
    let ws := p.waiting before (some c) threads
    let best := if ws.any p.isDone then some read else best
    match p.advance c (ws.takeWhile fun n => !p.isDone n) with
    | [] => best
    | n :: ns => p.run (some c) (n :: ns) (read + 1) best t

/-- The length of the match that starts right here, in a text with `before` in front. -/
def matchLength? (p : Program) (before : Option Char) (t : Text) : Option Nat :=
  p.run before [0] 0 none t

/-- The first match in a text with `before` in front, with what follows it. -/
def findFrom? (p : Program) (before : Option Char) (t : Text) : Option (Text × Text) :=
  match p.matchLength? before t with
  | some n => some (t.take n, t.drop n)
  | none =>
    match t with
    | [] => none
    | c :: t => p.findFrom? (some c) t

/-- The first match in a text, with what follows it. -/
def find? (p : Program) (t : Text) : Option (Text × Text) := p.findFrom? none t

end Program

end Descent.Regex
