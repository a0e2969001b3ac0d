import Descent.Proofs.Anchored

/-!
# Programs behind a look

Where the start of the text is required in front of a program, its instructions are numbered one
further on and their targets with them (`Program.fromStart`).  At the start of a text the look lets
the first thread pass.  From there on the threads of the two programs go in step, each one number
apart from the other: they slip, wait and read alike.  So what the program matches at the front of
a text, and with which preference, is not changed (`Program.matchLength?_fromStart`), and what the
anchored program finds is what the program matches at the front (`Program.find?_fromStart`).
-/

namespace Descent.Regex

/-! ## Instructions further on -/

/-- The instruction with its targets further on. -/
def Instr.shift (k : Nat) : Instr → Instr
  | fork i j => fork (i + k) (j + k)
  | jump i => jump (i + k)
  | i => i

@[simp] theorem Instr.shift_loop (k : Nat) (greedy : Bool) (i j : Nat) :
    (loop greedy i j).shift k = loop greedy (i + k) (j + k) := by
  cases greedy <;> rfl

namespace Program

variable {p : Program} {n : Nat} {before after : Option Char}

/-- The program with the start of the text required in front. -/
def fromStart (p : Program) : Program :=
  ⟨(Instr.look .textStart :: p.instrs.toList.map (Instr.shift 1)).toArray⟩

theorem anchored_fromStart (p : Program) : p.fromStart.Anchored := rfl

theorem size_fromStart (p : Program) : p.fromStart.size = p.size + 1 := by
  simp [fromStart, size]

theorem instr?_fromStart (n : Nat) : p.fromStart.instr? (n + 1) = (p.instr? n).map (.shift 1) := by
  simp [fromStart, instr?]

/-! ## Threads in step -/

theorem slips_fromStart (n : Nat) :
    p.fromStart.slips before after (n + 1) = (p.slips before after n).map (· + 1) := by
  rw [slips, slips, instr?_fromStart]
  cases p.instr? n with
  | none => rfl
  | some i =>
      cases i with
      | look l =>
          simp only [Option.map_some, Instr.shift]
          split
          · rfl
          · rfl
      | _ => rfl

theorem waits_fromStart (n : Nat) : p.fromStart.waits (n + 1) = p.waits n := by
  rw [waits, waits, instr?_fromStart]
  cases p.instr? n with
  | none => rfl
  | some i => cases i <;> rfl

theorem isDone_fromStart (n : Nat) : p.fromStart.isDone (n + 1) = p.isDone n := by
  rw [isDone, isDone, instr?_fromStart]
  cases p.instr? n with
  | none => rfl
  | some i => cases i <;> rfl

theorem advance_fromStart (c : Char) (threads : List Nat) :
    p.fromStart.advance c (threads.map (· + 1)) = (p.advance c threads).map (· + 1) := by
  rw [advance, advance, List.filterMap_map, List.map_filterMap]
  congr 1
  funext n
  rw [Function.comp_apply, instr?_fromStart]
  cases p.instr? n with
  | none => rfl
  | some i =>
      cases i with
      | set s =>
          simp only [Option.map_some, Instr.shift]
          split
          · rfl
          · rfl
      | _ => rfl

/-- The instructions that have been seen are the same, one number apart. -/
def SeenAlike (seen seen' : Array Bool) : Prop :=
  ∀ n, seen'.getD (n + 1) true = seen.getD n true

theorem SeenAlike.mark {seen seen' : Array Bool} (h : SeenAlike seen seen')
    (hn : seen.getD n true = false) :
    SeenAlike (seen.setIfInBounds n true) (seen'.setIfInBounds (n + 1) true) := by
  intro m
  have hn' : seen'.getD (n + 1) true = false := (h n).trans hn
  rw [Bool.eq_iff_iff, getD_setIfInBounds hn, getD_setIfInBounds hn', h m, Nat.add_right_cancel_iff]

theorem settle_fromStart : ∀ (fuel : Nat) (pending : List Nat) {seen seen' : Array Bool}
    (found : List Nat), SeenAlike seen seen' →
      p.fromStart.settle before after fuel (pending.map (· + 1)) seen' (found.map (· + 1)) =
        (p.settle before after fuel pending seen found).map (· + 1) := by
  intro fuel
  induction fuel with
  | zero => exact fun _ _ _ found _ => List.map_reverse.symm
  | succ fuel ih =>
      intro pending seen seen' found h
      cases pending with
      | nil => rw [List.map_nil, settle_nil, settle_nil, List.map_reverse]
      | cons n pending =>
          rw [List.map_cons]
          cases hn : seen.getD n true with
          | true =>
              rw [settle_of_seen hn, settle_of_seen ((h n).trans hn)]
              exact ih pending found h
          | false =>
              rw [settle_of_unseen hn, settle_of_unseen ((h n).trans hn), slips_fromStart,
                waits_fromStart, ← List.map_append, ← ih _ _ (h.mark hn)]
              congr 1
              split
              · rfl
              · rfl

theorem seenAlike_replicate (k : Nat) :
    SeenAlike (Array.replicate k false) (Array.replicate (k + 1) false) := by
  intro n
  simp [Array.getD]

/-- The look in front has no counterpart, so it does not matter whether it has been seen. -/
theorem SeenAlike.front {seen seen' : Array Bool} (h : SeenAlike seen seen') (b : Bool) :
    SeenAlike seen (seen'.setIfInBounds 0 b) := by
  intro n
  rw [← h n, Array.getD_eq_getD_getElem?, Array.getD_eq_getD_getElem?,
    Array.getElem?_setIfInBounds_ne (Nat.succ_ne_zero n).symm]

/-- More fuel than a place needs changes nothing. -/
theorem waiting_eq_settle {threads : List Nat} {fuel : Nat}
    (h : threads.length + 2 * p.size ≤ fuel) : p.waiting before after threads =
      p.settle before after fuel threads (Array.replicate p.size false) [] := by
  rw [waiting]
  refine settle_eq_of_fuel ?_ ?_
  · rw [unseen_replicate]
    omega
  · rwa [unseen_replicate]

theorem waiting_fromStart (before after : Option Char) (threads : List Nat) :
    p.fromStart.waiting before after (threads.map (· + 1)) =
      (p.waiting before after threads).map (· + 1) := by
  have hfuel : threads.length + 2 * p.size ≤
      2 * p.fromStart.size + (threads.map (· + 1)).length + 1 := by
    rw [size_fromStart, List.length_map]
    omega
  rw [waiting, size_fromStart, waiting_eq_settle hfuel, size_fromStart]
  exact settle_fromStart _ threads [] (seenAlike_replicate p.size)

/-- At the start of a text the look lets the first thread pass. -/
theorem waiting_fromStart_zero (after : Option Char) :
    p.fromStart.waiting none after [0] = (p.waiting none after [0]).map (· + 1) := by
  have hfuel : [0].length + 2 * p.size ≤ 2 * p.fromStart.size + 1 := by
    rw [size_fromStart, List.length_singleton]
    omega
  have hslips : p.fromStart.slips none after 0 = [0].map (· + 1) := rfl
  have hunseen : (Array.replicate (p.size + 1) false).getD 0 true = false := by
    simp [Array.getD]
  rw [waiting, waiting_eq_settle hfuel, size_fromStart, List.length_singleton,
    settle_of_unseen hunseen, hslips, List.append_nil]
  exact settle_fromStart _ [0] [] ((seenAlike_replicate p.size).front true)

/-! ## Runs in step -/

/-- Where the threads of the two programs wait one number apart, the runs end alike. -/
theorem run_fromStart : ∀ {t : Text} {before : Option Char} {ps qs : List Nat} {read : Nat}
    {best : Option Nat}, (∀ after, p.fromStart.waiting before after qs =
      (p.waiting before after ps).map (· + 1)) →
        p.fromStart.run before qs read best t = p.run before ps read best t := by
  intro t
  induction t with
  | nil =>
      intro before ps qs read best h
      rw [run, run, h none, List.any_map]
      simp only [Function.comp_def, isDone_fromStart]
  | cons c t ih =>
      intro before ps qs read best h
      simp only [run, h (some c), List.any_map, List.takeWhile_map, Function.comp_def,
        isDone_fromStart, advance_fromStart]
      cases p.advance c ((p.waiting before (some c) ps).takeWhile fun n => !p.isDone n) with
      | nil => rfl
      | cons n ns =>
          rw [List.map_cons]
          exact ih fun after => waiting_fromStart (some c) after (n :: ns)

theorem matchLength?_fromStart (p : Program) (t : Text) :
    p.fromStart.matchLength? none t = p.matchLength? none t :=
  run_fromStart waiting_fromStart_zero

/-- What is found with the start of the text in front is what the program matches at the front. -/
theorem find?_fromStart (p : Program) (t : Text) : p.fromStart.find? t =
    (p.matchLength? none t).map fun n => (t.take n, t.drop n) := by
  rw [p.anchored_fromStart.find?_eq, p.matchLength?_fromStart]

end Program

/-! ## Expressions behind a look -/

namespace Expr

variable {block block' : Nat → List Instr} {k size : Nat}

/-- Copies that are moved one by one are moved as a whole. -/
theorem copies_shift (h : ∀ m, block' (m + k) = (block m).map (Instr.shift k)) : ∀ count n,
    copies count size block' (n + k) = (copies count size block n).map (Instr.shift k) := by
  intro count
  induction count with
  | zero => exact fun _ => rfl
  | succ count ih =>
      intro n
      rw [copies_succ, copies_succ, List.map_append, ← h, ← ih, Nat.add_right_comm]

theorem optionals_shift {greedy : Bool} (h : ∀ m, block (m + k) = (block m).map (Instr.shift k))
    (count n : Nat) : optionals greedy count size block (n + k) =
      (optionals greedy count size block n).map (Instr.shift k) := by
  rw [optionals, optionals]
  refine copies_shift (fun m => ?_) count n
  rw [List.map_cons, Instr.shift_loop, ← h, Nat.add_right_comm m, Nat.add_right_comm n]

/-- The instructions of an expression that is moved are moved with their targets. -/
theorem code_shift (a : Expr) (k : Nat) : ∀ n, a.code (n + k) = (a.code n).map (Instr.shift k) := by
  induction a with
  | empty => exact fun _ => rfl
  | set narrow s => exact fun _ => rfl
  | word t =>
      intro n
      simp [code, Instr.shift]
  | look l => exact fun _ => rfl
  | group i a ih => exact ih
  | seq a b iha ihb =>
      intro n
      rw [code, code, List.map_append, iha, ← ihb, Nat.add_right_comm]
  | alt a b iha ihb =>
      intro n
      simp only [code, List.map_append, List.map_cons, ← iha, ← ihb, Instr.shift,
        Nat.add_right_comm _ k]
  | times greedy least most a ih =>
      intro n
      cases most with
      | none =>
          cases least with
          | zero =>
              have hback : Instr.shift k
                  (if a.isSolid then .jump n else .loop greedy (n + 1) (n + a.size + 2)) =
                    if a.isSolid then .jump (n + k)
                    else .loop greedy (n + 1 + k) (n + a.size + 2 + k) := by
                split
                · rfl
                · exact Instr.shift_loop ..
              simp only [code, List.cons_append, List.map_cons, List.map_append, List.map_nil,
                ← ih, Instr.shift_loop, hback, Nat.add_right_comm _ k]
          | succ least =>
              simp only [code, List.map_append, List.map_cons, List.map_nil, Instr.shift_loop,
                ← copies_shift ih, Nat.add_right_comm _ k]
      | some most =>
          simp only [code, List.map_append, ← copies_shift ih, ← optionals_shift ih,
            Nat.add_right_comm _ k]

/-! ## Sequences -/

/-- The instructions of expressions one after the other. -/
def codes : List Expr → (n : Nat) → List Instr
  | [], _ => []
  | a :: as, n => a.code n ++ codes as (n + a.size)

theorem codes_append (as bs : List Expr) : ∀ n,
    codes (as ++ bs) n = codes as n ++ codes bs (n + (codes as n).length) := by
  induction as with
  | nil => exact fun _ => rfl
  | cons a as ih =>
      intro n
      rw [List.cons_append, codes, ih, codes, List.append_assoc, List.length_append, length_code,
        Nat.add_assoc]

theorem codes_parts (a : Expr) : ∀ n, codes a.parts n = a.code n := by
  induction a with
  | empty => exact fun _ => rfl
  | seq a b iha ihb =>
      intro n
      rw [parts, codes, ihb, code]
  | _ => exact fun _ => List.append_nil _

theorem codes_flatMap_parts (as : List Expr) : ∀ n, codes (as.flatMap parts) n = codes as n := by
  induction as with
  | nil => exact fun _ => rfl
  | cons a as ih =>
      intro n
      rw [List.flatMap_cons, codes_append, codes_parts, length_code, ih, codes]

/-- Words that stand side by side have the instructions of one word. -/
theorem codes_consPart (a : Expr) (as : List Expr) (n : Nat) :
    codes (consPart a as) n = codes (a :: as) n := by
  rw [consPart.eq_def]
  split
  next t u as =>
    simp only [codes, code, size, List.map_append, List.append_assoc, List.length_append,
      Nat.add_assoc]
  next => rfl

theorem codes_foldr_consPart (as : List Expr) : ∀ n,
    codes (as.foldr consPart []) n = codes as n := by
  induction as with
  | nil => exact fun _ => rfl
  | cons a as ih =>
      intro n
      rw [List.foldr_cons, codes_consPart, codes, codes, ih]

theorem code_ofParts : ∀ (as : List Expr) (n : Nat), (ofParts as).code n = codes as n
  | [], _ => rfl
  | [_], _ => (List.append_nil _).symm
  | a :: b :: as, n => congrArg (a.code n ++ ·) (code_ofParts (b :: as) (n + a.size))

/-- However a sequence is put together, its instructions are those of its expressions in turn. -/
theorem code_seqs (as : List Expr) (n : Nat) : (seqs as).code n = codes as n := by
  rw [seqs, code_ofParts, codes_foldr_consPart, codes_flatMap_parts]

/-- The program of an expression behind the start of the text is its program there. -/
theorem program_seqs (a : Expr) : (seqs [.look .textStart, a]).program = a.program.fromStart := by
  have hcode : codes [.look .textStart, a] 0 = .look .textStart :: (a.code 0).map (.shift 1) := by
    rw [← code_shift]
    exact congrArg _ (List.append_nil _)
  rw [program, code_seqs, hcode, Program.fromStart, program]
  simp [Instr.shift]

end Expr

end Descent.Regex
