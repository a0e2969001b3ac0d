import Std.Data.HashMap
import Descent.Regex.BytePath
import Descent.Regex.Expr

/-!
# The size of automata

An expression stands for two automata over bytes, one that reads a piece from its front and notes
where groups start and end, and one that reads it from its back.  The *footprint* of an automaton is
the memory that it takes: each state takes 32 bytes, each edge of a state with several edges 8, and
each branch of a fork 4.  An expression fits when both footprints are within the `budget`.

An automaton is laid out state by state, and a *layout* says how the footprint grows on the way.  It
gives up once the budget is passed, so a layout takes time in proportion to the budget at most.

Where a set goes beyond ASCII, its paths of bytes share states.  The states are found again through
a table with few slots, and a state that comes into a slot takes the place of the one before.  Which
states are shared therefore depends on their numbers, so the same set may take more states in one
place than in another.

`weight` is a bound on the footprint that needs no tables.  Only where it passes the budget are the
automata laid out.
-/

namespace Descent.Regex

/-- The memory of an automaton. -/
structure Footprint where
  /-- The number of states.  A new state takes it for its number. -/
  states : Nat := 0
  /-- The bytes of edges and branches. -/
  extra : Nat := 0
deriving DecidableEq, Repr, Inhabited

/-- The end of a piece from which an automaton reads. -/
inductive Direction where
  /-- From the front. -/
  | forward
  /-- From the back. -/
  | backward
deriving DecidableEq, Repr

namespace Footprint

/-- The number of bytes. -/
def bytes (p : Footprint) : Nat := 32 * p.states + p.extra

/-- The greatest number of bytes that an automaton may take. -/
def budget : Nat := 10 * 1024 * 1024

instance : Add Footprint := ⟨fun p q => ⟨p.states + q.states, p.extra + q.extra⟩⟩

/-- How a footprint grows, unless it passes the budget. -/
abbrev Layout := Footprint → Option Footprint

/-- Adds states, and bytes for edges and branches. -/
def grow (states : Nat) (extra : Nat := 0) : Layout := fun p =>
  let q := p + ⟨states, extra⟩
  if q.bytes ≤ budget then some q else none

/-- A layout as often as a number says. -/
def copies : Nat → Layout → Layout
  | 0, _, p => some p
  | n + 1, l, p =>
    match l p with
    | some q => copies n l q
    | none => none

/-! ## Shared states -/

/-- An automaton that is laid out, with the states that can be shared. -/
structure Sharing where
  /-- What has been laid out. -/
  footprint : Footprint
  /-- The number of slots. -/
  size : Nat
  /-- The slots in use: what a state is found by, and its number. -/
  slots : Std.HashMap Nat (List Nat × Nat) := ∅

/-- A step that lays out states. -/
abbrev Step := StateT Sharing Option

/-- The slot of what a state is found by. -/
def slotOf (size : Nat) (key : List Nat) : Nat :=
  let mix (h : UInt64) (n : Nat) : UInt64 := (h ^^^ n.toUInt64) * 1099511628211
  (key.foldl mix 14695981039346656037).toNat % size

/-- Adds states and bytes. -/
def growStep (states : Nat) (extra : Nat := 0) : Step Unit := fun k =>
  match grow states extra k.footprint with
  | some p => some ((), { k with footprint := p })
  | none => none

/-- The number of the state that is found by `key`.  If there is none in its slot, a new one is put
there. -/
def stateOf (key : List Nat) (extra : Nat) : Step Nat := fun k =>
  let slot := slotOf k.size key
  match k.slots[slot]?.filter fun (other, _) => other == key with
  | some (_, n) => some (n, k)
  | none =>
    match grow 1 extra k.footprint with
    | some p =>
      let n := k.footprint.states
      some (n, { k with footprint := p, slots := k.slots.insert slot (key, n) })
    | none => none

/-! ## Sets from the front

The paths of a set come in ascending order.  The last of them is kept open, so that the next one can
leave it where the two part.  What is below that place is closed, from the far end on, and each node
that is closed becomes a state. -/

/-- An edge: the bytes it reads and the number of the state that it leads to. -/
abbrev Edge := ByteRange × Nat

/-- A node on the open path. -/
structure OpenNode where
  /-- The edges to states, last first. -/
  edges : List Edge := []
  /-- The bytes on the open path. -/
  last : ByteRange

/-- The edges of a node, last first, once the open path leads to a state. -/
def OpenNode.edgesTo (n : OpenNode) (target : Nat) : List Edge := (n.last, target) :: n.edges

/-- Closes the nodes of an open path that leads to a state.  The result is the number of the state
that the path starts at. -/
def close (target : Nat) : List OpenNode → Step Nat
  | [] => pure target
  | n :: ns => do
    let edges := n.edgesTo (← close target ns)
    stateOf (edges.reverse.flatMap fun ((lo, hi), next) => [lo, hi, next]) (8 * edges.length)

/-- The nodes of a path that is open. -/
def openPath (path : BytePath) : List OpenNode := path.map fun last => { last }

/-- Adds a path.  It follows the open path as far as the two agree. -/
def insert (target : Nat) : List OpenNode → BytePath → Step (List OpenNode)
  | [], path => pure (openPath path)
  | ns, [] => pure ns
  | n :: ns, range :: path =>
    if n.last = range then do
      let ns ← insert target ns path
      pure (n :: ns)
    else do
      let next ← close target ns
      pure (⟨n.edgesTo next, range⟩ :: openPath path)

/-- Lays out paths from the front. -/
def layForward (paths : List BytePath) : Step Unit := do
  let target := (← get).footprint.states
  growStep 1
  let nodes ← paths.foldlM (insert target) []
  let _ ← close target nodes

/-! ## Sets from the back -/

/-- Lays out paths from the back.  A state is found by its byte range and the state it leads to. -/
def layBackward (paths : List BytePath) : Step Unit := do
  growStep 1
  let target := (← get).footprint.states
  growStep 1
  for path in paths do
    let _ ← path.foldlM (fun next (lo, hi) => stateOf [next, lo, hi] 0) target
    growStep 0 4

/-- Lays out the paths of a set. -/
def layPaths (d : Direction) (paths : List BytePath) : Layout := fun p =>
  let result := match d with
    | .forward => layForward paths ⟨p, 10000, ∅⟩
    | .backward => layBackward paths ⟨p, 1000, ∅⟩
  result.map fun (_, k) => k.footprint

/-- Lays out a set. -/
def laySet (d : Direction) (s : CharSet) : Layout :=
  if s.isAscii then grow 2 (8 * s.spans.length) else layPaths d (BytePath.ofSet s)

/-! ## Alternations of words

Words that are alternatives are laid out as a tree.  The words that come to a node are split into
chunks where one of them ends, and those of a chunk are told apart by their next bytes. -/

/-- The chunks of a list of words. -/
def chunks : List (List Nat) → List (List (List Nat))
  | [] => [[]]
  | [] :: ws => [] :: chunks ws
  | w :: ws =>
    match chunks ws with
    | [] => [[w]]
    | k :: ks => (w :: k) :: ks

/-- The footprint of a node, given that of each chunk.  A chunk without words takes no state. -/
def ofChunks (ks : List (Option Footprint)) : Footprint :=
  let inner := (ks.filterMap id).foldl (· + ·) {}
  inner + ⟨1, 4 * ((ks.filterMap id).length + (ks.length - 1))⟩

/-- The footprint of the tree of words, with as many rounds as the longest has bytes and one more.
Where all words have ended, a node is no state of its own. -/
def treeOf : (fuel : Nat) → List (List Nat) → Footprint
  | 0, _ => {}
  | fuel + 1, ws =>
    if ws.all List.isEmpty then {}
    else
      let ended := (ws.takeWhile List.isEmpty).take 1
      ofChunks ((chunks (ended ++ ws.dropWhile List.isEmpty)).map fun k =>
        let heads := (k.filterMap List.head?).eraseDups
        if heads.isEmpty then none
        else
          let below := heads.map fun b =>
            treeOf fuel ((k.filter fun w => w.head? == some b).map List.tail)
          some (below.foldl (· + ·) ⟨1, if heads.length = 1 then 0 else 8 * heads.length⟩))

/-- Lays out words that are alternatives. -/
def layWords (d : Direction) (ts : List Text) : Layout :=
  let ws := ts.map fun t =>
    let bytes := t.flatMap fun c => BytePath.utf8 c.toNat
    match d with
    | .forward => bytes
    | .backward => bytes.reverse
  let tree := treeOf ((ws.map List.length).foldl max 0 + 1) ws
  grow (1 + tree.states) tree.extra

/-! ## Expressions -/

/-- An alternative: the text of a word, and the layout. -/
structure Branch where
  /-- The text, if the alternative is a word. -/
  word : Option Text := none
  /-- The layout. -/
  layout : Layout

/-- Lays out alternatives. -/
def layBranches (d : Direction) : List Branch → Layout
  | [] => some
  | [b] => b.layout
  | b :: c :: bs =>
    match (b :: c :: bs).mapM Branch.word with
    | some ts => layWords d ts
    | none =>
      b.layout >=> c.layout >=> grow 2 8 >=>
        bs.foldr (fun b rest => b.layout >=> grow 0 4 >=> rest) some

/-- Lays out a repetition, given the layout of what is repeated and whether that is solid. -/
def layTimes (isSolid : Bool) (l : Layout) : (least : Nat) → (most : Option Nat) → Layout
  | 0, none => if isSolid then grow 1 8 >=> l else l >=> grow 3 16
  | least + 1, none => copies (least + 1) l >=> grow 1 8
  | 0, some 1 => grow 1 8 >=> l >=> grow 1
  | least, some most =>
    let required := if least = 0 then grow 1 else copies least l
    if least < most then required >=> grow 1 >=> copies (most - least) (grow 1 8 >=> l)
    else required

/-- The alternatives of an expression with their layouts. -/
def branchesOf (d : Direction) : Expr → List Branch
  | .empty => [{ layout := grow 1 }]
  | .set _ s => [{ layout := laySet d s }]
  | .word t => [{ word := t, layout := grow t.size }]
  | .look _ => [{ layout := grow 1 }]
  | .group _ a =>
    let l := layBranches d (branchesOf d a)
    match d with
    | .forward => [{ layout := grow 1 >=> l >=> grow 1 }]
    | .backward => [{ layout := l }]
  | .seq a b =>
    let l := layBranches d (branchesOf d a)
    let m := layBranches d (branchesOf d b)
    match d with
    | .forward => [{ layout := l >=> m }]
    | .backward => [{ layout := m >=> l }]
  | .alt a b => branchesOf d a ++ branchesOf d b
  | .times _ least most a =>
    let l := layBranches d (branchesOf d a)
    [{ layout := layTimes a.isSolid l least most }]

/-- Lays out the automaton of an expression.  An automaton that need not start at an end of the text
has a loop over all bytes in front. -/
def layout (d : Direction) (a : Expr) : Layout :=
  let l := layBranches d (branchesOf d a)
  match d with
  | .forward =>
    (if a.startsWith .textStart then grow 1 else grow 3 16) >=> grow 1 >=> l >=> grow 2
  | .backward =>
    (if a.endsWith .textEnd then grow 1 else grow 3 16) >=> l >=> grow 1

end Footprint

namespace Expr

/-! ## What fits -/

/-- A number of bytes that the automata of the expression do not pass, the states around it left
out. -/
def weight : Expr → Nat
  | empty => 32
  | set _ s =>
    if s.isAscii then 64 + 8 * s.spans.length else 64 + 132 * (BytePath.ofSet s).length
  | word t => 76 * t.size
  | look _ => 32
  | group _ a => a.weight + 64
  | seq a b => a.weight + b.weight
  | alt a b => a.weight + b.weight + 72
  | times _ least most a => max least (most.getD 1) * (a.weight + 40) + 112

/-- Whether the automata of the expression are within the budget. -/
def fits (a : Expr) : Bool :=
  a.weight + 208 ≤ Footprint.budget ||
    ((Footprint.layout .forward a {}).isSome && (Footprint.layout .backward a {}).isSome)

end Expr

end Descent.Regex
