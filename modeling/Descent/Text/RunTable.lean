import Descent.Text.Hex

/-!
# Run tables

A property of characters such as the general category is constant on long runs of code points.
A *run table* lists the first code point of each run with the value on that run; a run ends where
the next one starts.  Looking a character up is a binary search for the last run that starts at or
before it.

Tables are written as rows of words.  A word is a key of fixed width followed by the first code
point of the run in upper case hexadecimal digits, so `Lu41 Ll61` would be a run of upper case
letters from `A` on and one of lower case letters from `a` on.
-/

namespace Descent

/-- A map from code points that is constant on runs, given by the runs in ascending order. -/
structure RunTable (α : Type) where
  /-- The first code point of each run, with the value on the run. -/
  runs : Array (Nat × α)

namespace RunTable

variable {α : Type}

/-- The table that rows of words write, with keys of the given width. -/
def ofRows (width : Nat) (key? : String → Option α) (rows : List String) : RunTable α :=
  ⟨(rows.flatMap fun row => (row.splitOn " ").filterMap fun word =>
      let cs := word.toList
      (key? (String.ofList (cs.take width))).map fun a => (Hex.value (cs.drop width), a)).toArray⟩

/-- The last index from `lo` on and below `hi` whose run starts at or before `n`, where the run at
`lo` does. -/
def indexFrom (t : RunTable α) (n lo hi : Nat) : Nat :=
  if _h : lo + 1 < hi then
    let mid := (lo + hi) / 2
    match t.runs[mid]? with
    | some (start, _) => if start ≤ n then t.indexFrom n mid hi else t.indexFrom n lo mid
    | none => lo
  else lo
termination_by hi - lo

/-- The first and the last code point of each run whose value passes a test.  The last run ends
where the code points end. -/
def spans (p : α → Bool) (t : RunTable α) : List (Nat × Nat) :=
  let starts := t.runs.toList.map Prod.fst
  (t.runs.toList.zip (starts.drop 1 ++ [0x110000])).filterMap fun ((start, a), next) =>
    if p a then some (start, next - 1) else none

/-- The value at a code point, or `fallback` before the first run. -/
def get (t : RunTable α) (fallback : α) (n : Nat) : α :=
  match t.runs[t.indexFrom n 0 t.runs.size]? with
  | some (start, a) => if start ≤ n then a else fallback
  | none => fallback

end RunTable

end Descent
