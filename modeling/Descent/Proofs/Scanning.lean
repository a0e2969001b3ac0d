import Descent.Proofs.Anchored

/-!
# Programs that scan

A program *scans* a set when its threads go round in a loop: they wait at an instruction that reads
a character of the set or else at `done`, and behind such a character they wait at the same two
instructions again.  From there the program goes on as far as there are characters of the set
(`Scans.run_append`).  A repetition at the end of an expression is a loop of this kind, so what
`[^"]*` finds is known (`Scans.find?_append`), and so is what an expression finds that reads one
character before it comes to its loop (`Scans.find?_cons`).

An anchored program that waits for a character of a set at the start finds nothing in a text that
does not start with one (`Anchored.find?_eq_none`).
-/

namespace Descent.Regex.Program

variable {p : Program} {s s' : CharSet} {c : Char} {i k d : Nat} {a b t : Text}

/-! ## Single instructions -/

theorem isDone_of_done (h : p.instr? d = some .done) : p.isDone d = true := by
  rw [isDone, h]
  rfl

theorem isDone_of_set (h : p.instr? k = some (.set s)) : p.isDone k = false := by
  rw [isDone, h]
  rfl

theorem advance_of_set (h : p.instr? k = some (.set s)) :
    p.advance c [k] = if s.contains c then [k + 1] else [] := by
  by_cases hc : s.contains c = true
  · simp [advance, h, hc]
  · simp [advance, h, hc]

/-- A thread that waits alone to read a character of a set goes on behind it or is lost. -/
theorem run_of_set (h : p.instr? k = some (.set s)) {before : Option Char} {threads : List Nat}
    (hw : ∀ after, p.waiting before after threads = [k]) (read : Nat) (best : Option Nat) :
    p.run before threads read best t =
      match t with
      | [] => best
      | c :: t => if s.contains c then p.run (some c) [k + 1] (read + 1) best t else best := by
  have hk := isDone_of_set h
  cases t with
  | nil => simp [run, hw, hk]
  | cons c t =>
      by_cases hc : s.contains c = true
      · simp [run, hw, hk, advance_of_set h, hc]
      · simp [run, hw, hk, advance_of_set h, hc]

/-! ## Loops -/

/-- The thread behind an instruction that reads a character of the set waits there again, or else at
`done`. -/
structure Scans (p : Program) (s : CharSet) (k d : Nat) : Prop where
  reads : p.instr? k = some (.set s)
  done : p.instr? d = some .done
  again : ∀ before after, p.waiting before after [k + 1] = [k, d]

theorem find?_of_run (h : p.run none [0] 0 none (a ++ b) = some a.length) :
    p.find? (a ++ b) = some (a, b) := by
  rw [find?, findFrom?.eq_def, matchLength?, h]
  simp

namespace Scans

/-- In its loop the program reads all the characters of the set. -/
theorem run_append (h : p.Scans s k d) (hb : ∀ c ∈ b.head?, s.contains c = false) :
    ∀ (a : Text) (before : Option Char) (threads : List Nat) (read : Nat) (best : Option Nat),
      (∀ c ∈ a, s.contains c = true) → (∀ after, p.waiting before after threads = [k, d]) →
        p.run before threads read best (a ++ b) = some (read + a.length) := by
  have hfound : [k, d].any p.isDone = true := by simp [isDone_of_done h.done]
  have hleft : [k, d].takeWhile (fun n => !p.isDone n) = [k] := by
    simp [isDone_of_set h.reads, isDone_of_done h.done]
  intro a
  induction a with
  | nil =>
      intro before threads read best _ hw
      cases b with
      | nil => simp only [List.append_nil, run, hw, hfound, if_true, List.length_nil, Nat.add_zero]
      | cons c b =>
          have hc : s.contains c = false := hb c rfl
          simp [run, hw, hfound, hleft, advance_of_set h.reads, hc]
  | cons c a ih =>
      intro before threads read best ha hw
      have hc : s.contains c = true := ha c (List.mem_cons_self ..)
      have hrest := ih (some c) [k + 1] (read + 1) (some read)
        (fun x hx => ha x (List.mem_cons_of_mem c hx)) (h.again _)
      simp only [List.cons_append, run, hw, hfound, hleft, advance_of_set h.reads, hc, if_true,
        hrest, List.length_cons]
      congr 1
      omega

/-- A loop that the program starts with finds the characters of its set. -/
theorem find?_append (h : p.Scans s k d) (start : ∀ after, p.waiting none after [0] = [k, d])
    (ha : ∀ c ∈ a, s.contains c = true) (hb : ∀ c ∈ b.head?, s.contains c = false) :
    p.find? (a ++ b) = some (a, b) := by
  refine find?_of_run ?_
  rw [h.run_append hb a none [0] 0 none ha start, Nat.zero_add]

/-- A loop behind one other character finds that character and those of its set. -/
theorem find?_cons (h : p.Scans s k d) (first : p.instr? i = some (.set s'))
    (start : ∀ after, p.waiting none after [0] = [i])
    (enter : ∀ before after, p.waiting before after [i + 1] = [k, d])
    (hc : s'.contains c = true) (ha : ∀ c ∈ a, s.contains c = true)
    (hb : ∀ c ∈ b.head?, s.contains c = false) : p.find? (c :: a ++ b) = some (c :: a, b) := by
  refine find?_of_run ?_
  rw [run_of_set first start, List.cons_append]
  simp only [hc, if_true]
  rw [h.run_append hb a (some c) [i + 1] (0 + 1) none ha (enter _), List.length_cons]
  congr 1
  omega

end Scans

/-! ## Nothing to be found -/

namespace Anchored

theorem find?_of_matchLength? (h : p.Anchored) (ht : p.matchLength? none t = none) :
    p.find? t = none := by
  rw [h.find?_eq, ht]
  rfl

/-- Nothing is found where the first character is not one of the set that the program waits for. -/
theorem find?_eq_none (h : p.Anchored) (first : p.instr? k = some (.set s))
    (start : ∀ after, p.waiting none after [0] = [k]) (ht : ∀ c ∈ t.head?, s.contains c = false) :
    p.find? t = none := by
  refine h.find?_of_matchLength? ?_
  rw [matchLength?, run_of_set first start]
  cases t with
  | nil => rfl
  | cons c t => simp [ht c rfl]

/-- Nor where the second one is not. -/
theorem find?_eq_none_of_second (h : p.Anchored) (first : p.instr? k = some (.set s))
    (start : ∀ after, p.waiting none after [0] = [k]) (second : p.instr? (k + 1) = some (.set s'))
    (behind : ∀ before after, p.waiting before after [k + 1] = [k + 1])
    (ht : ∀ c ∈ t.head?, s'.contains c = false) : p.find? (c :: t) = none := by
  refine h.find?_of_matchLength? ?_
  rw [matchLength?, run_of_set first start]
  simp only
  rw [run_of_set second (behind _)]
  cases t with
  | nil => simp
  | cons e t => simp [ht e rfl]

end Anchored

end Descent.Regex.Program
