import Descent.Lexeme
import Descent.Proofs.Waiting

/-!
# Anchored expressions

A program is *anchored* when its first instruction looks for the start of the text.  Behind the
start all its threads give up at once, so the only place where it can match is the front
(`Anchored.front`).  The programs of lexemes are anchored (`Lexeme.exists_anchored`).

A program is *solid* when none of its threads has found a match at the start of a text.  An anchored
program that is solid finds no empty piece (`Solid.token_ne_nil`), and the programs of lexemes are
both (`Lexeme.exists_solid`).
-/

namespace Descent

namespace Regex.Program

/-- The first instruction looks for the start of the text. -/
def Anchored (p : Program) : Prop := p.instr? 0 = some (.look .textStart)

variable {p : Program}

/-- The first instruction does not let a thread pass where the text has started. -/
theorem Anchored.waiting_eq (h : p.Anchored) (c : Char) (after : Option Char) :
    p.waiting (some c) after [0] = [] := by
  have hinstr : p.instr? 0 = some (.look .textStart) := h
  have hsize : 0 < p.size := by
    rcases Array.getElem?_eq_some_iff.mp hinstr with ⟨hsize, -⟩
    exact hsize
  have hseen : (Array.replicate p.size false).getD 0 true = false := by
    simp [hsize]
  rw [waiting, settle, hseen, hinstr]
  simp [Look.holds, settle]

theorem Anchored.matchLength?_eq_none (h : p.Anchored) (c : Char) (t : Text) :
    p.matchLength? (some c) t = none := by
  rw [matchLength?]
  cases t with
  | nil =>
      rw [run, h.waiting_eq]
      rfl
  | cons d t =>
      rw [run, h.waiting_eq]
      rfl

theorem Anchored.findFrom?_eq_none (h : p.Anchored) (t : Text) :
    ∀ c : Char, p.findFrom? (some c) t = none := by
  induction t with
  | nil =>
      intro c
      rw [findFrom?, h.matchLength?_eq_none]
  | cons d t ih =>
      intro c
      rw [findFrom?, h.matchLength?_eq_none]
      exact ih d

/-- An anchored program finds what it matches at the front. -/
theorem Anchored.find?_eq (h : p.Anchored) (t : Text) :
    p.find? t = (p.matchLength? none t).map fun n => (t.take n, t.drop n) := by
  rw [find?, findFrom?.eq_def]
  cases p.matchLength? none t with
  | some n => rfl
  | none =>
      cases t with
      | nil => rfl
      | cons c t => exact h.findFrom?_eq_none t c

theorem Anchored.front (h : p.Anchored) {t token rest : Text}
    (hfind : p.find? t = some (token, rest)) : t = token ++ rest := by
  rw [h.find?_eq] at hfind
  obtain ⟨n, -, heq⟩ := Option.map_eq_some_iff.mp hfind
  cases heq
  exact (List.take_append_drop n t).symm

end Regex.Program

/-- An expression with the start of the text required in front. -/
def Regex.Expr.fromStart (a : Expr) : Expr := seq (look .textStart) a

theorem Regex.Expr.anchored_fromStart (a : Expr) : a.fromStart.program.Anchored := rfl

namespace Lexeme

/-- The expression of every lexeme compiles, to a program that is anchored. -/
theorem exists_anchored (l : Lexeme) :
    ∃ regex, Regex.compile (Regex.anchored l.source) = .ok regex ∧ regex.program.Anchored := by
  have first : (Regex.compile (Regex.anchored l.source)).toOption.any
      (fun regex => regex.program.instr? 0 = some (.look .textStart)) = true := by
    cases l <;> decide +kernel
  obtain ⟨regex, hc, hpasses⟩ := Regex.exists_ok first
  have hfirst : regex.program.instr? 0 = some (.look .textStart) := of_decide_eq_true hpasses
  exact ⟨regex, hc, hfirst⟩

end Lexeme

/-! ## Matches that are not empty -/

namespace Regex

/-- Whether the instruction looks at the character that follows. -/
def Instr.looksAhead : Instr → Bool
  | .look .textStart => false
  | .look _ => true
  | _ => false

namespace Program

variable {p : Program}

/-- No match has been found before a character has been read. -/
def Solid (p : Program) : Prop := ∀ after, (p.waiting none after [0]).any p.isDone = false

/-- Where no instruction looks ahead, threads slip alike whatever follows, and it matters only
whether something stands in front. -/
theorem slips_eq_of_looksAhead (h : ∀ i ∈ p.instrs, i.looksAhead = false)
    {before before' : Option Char} (hbefore : before.isNone = before'.isNone)
    (after after' : Option Char) (n : Nat) :
    p.slips before after n = p.slips before' after' n := by
  rw [slips, slips]
  cases hn : p.instr? n with
  | none => rfl
  | some i =>
      have hlook := h i (Array.mem_of_getElem? hn)
      cases i with
      | look l =>
          cases l with
          | textStart => simp [Look.holds, hbefore]
          | _ => cases hlook
      | _ => rfl

theorem solid_of_looksAhead (h : ∀ i ∈ p.instrs, i.looksAhead = false)
    (hdone : (p.waiting none none [0]).any p.isDone = false) : p.Solid := by
  intro after
  rw [← hdone, waiting_congr (slips_eq_of_looksAhead h rfl after none)]

theorem le_of_run {n : Nat} : ∀ {t : Text} {before : Option Char} {threads : List Nat} {read : Nat}
    {best : Option Nat}, p.run before threads read best t = some n → best = some n ∨ read ≤ n := by
  intro t
  induction t with
  | nil =>
      intro before threads read best h
      rw [run] at h
      split at h
      · cases h
        exact Or.inr (Nat.le_refl _)
      · exact Or.inl h
  | cons c t ih =>
      intro before threads read best h
      simp only [run] at h
      have stop : (if (p.waiting before (some c) threads).any p.isDone then some read else best) =
          some n → best = some n ∨ read ≤ n := by
        intro hstop
        split at hstop
        · cases hstop
          exact Or.inr (Nat.le_refl _)
        · exact Or.inl hstop
      split at h
      · exact stop h
      · rcases ih h with hbest | hle
        · exact stop hbest
        · exact Or.inr (Nat.le_of_succ_le hle)

theorem Solid.matchLength?_pos (h : p.Solid) {t : Text} {n : Nat}
    (hn : p.matchLength? none t = some n) : 0 < n ∧ t ≠ [] := by
  rw [matchLength?] at hn
  cases t with
  | nil =>
      rw [run, h none] at hn
      cases hn
  | cons c t =>
      simp only [run, h (some c)] at hn
      split at hn
      · cases hn
      · rcases le_of_run hn with hbest | hle
        · cases hbest
        · exact ⟨hle, nofun⟩

/-- An anchored program that is solid finds no empty piece. -/
theorem Solid.token_ne_nil (h : p.Solid) (ha : p.Anchored) {t token rest : Text}
    (hfind : p.find? t = some (token, rest)) : token ≠ [] := by
  rw [ha.find?_eq] at hfind
  obtain ⟨n, hn, heq⟩ := Option.map_eq_some_iff.mp hfind
  obtain ⟨hpos, ht⟩ := h.matchLength?_pos hn
  cases heq
  intro hnil
  rcases List.take_eq_nil_iff.mp hnil with hzero | hempty
  · exact absurd hzero (Nat.ne_of_gt hpos)
  · exact ht hempty

end Program

end Regex

namespace Lexeme

/-- The program of every lexeme is anchored and solid. -/
theorem exists_solid (l : Lexeme) :
    ∃ regex, Regex.compile (Regex.anchored l.source) = .ok regex ∧ regex.program.Anchored ∧
      regex.program.Solid := by
  have start : (Regex.compile (Regex.anchored l.source)).toOption.any (fun regex =>
      regex.program.instr? 0 = some (.look .textStart) ∧
        (regex.program.instrs.all fun i => !i.looksAhead) = true ∧
        (regex.program.waiting none none [0]).any regex.program.isDone = false) = true := by
    cases l <;> decide +kernel
  obtain ⟨regex, hc, hstart⟩ := Regex.exists_ok start
  obtain ⟨hfirst, hlooks, hdone⟩ := of_decide_eq_true hstart
  refine ⟨regex, hc, hfirst, Regex.Program.solid_of_looksAhead (fun i hi => ?_) hdone⟩
  simpa using Array.all_eq_true_iff_forall_mem.mp hlooks i hi

end Lexeme

end Descent
