import Descent.Proofs.Scanning

/-!
# Deterministic programs

A program prefers some matches to others, and the match that it prefers need not be the longest.  It
is where the program is *deterministic*: no two of the threads that a thread slips to read the same
character, and where one of them has found a match it is the last (`Program.Deterministic`).  Then
at most one thread goes on behind any character, and none that could go on gives up for a match that
is found.  So the search ends with the furthest place at which the thread arrives
(`Deterministic.run_spec`), and an anchored program finds the longest piece that its expression
matches at the front, if there is one (`Expr.find?_program_eq_some_iff`,
`Expr.find?_program_eq_none_iff`).

Whether a program whose threads do not look ahead is deterministic can be computed
(`Program.isDeterministic`).
-/

namespace Descent

/-- No span of the one set meets a span of the other. -/
def CharSet.isApart (a b : CharSet) : Bool :=
  a.spans.all fun x => b.spans.all fun y => x.2 < y.1 || y.2 < x.1

theorem CharSet.exists_span_of_contains {a : CharSet} {c : Char} (h : a.contains c = true) :
    ∃ x ∈ a.spans, x.1 ≤ c.toNat ∧ c.toNat ≤ x.2 := by
  rw [contains] at h
  induction hs : a.spans generalizing a with
  | nil => rw [hs] at h; cases h
  | cons x xs ih =>
      rw [hs, spansContain] at h
      simp only [Bool.and_eq_true, decide_eq_true_eq, Bool.or_eq_true] at h
      rcases h.2 with hle | hmem
      · exact ⟨x, List.mem_cons_self, h.1, hle⟩
      · obtain ⟨y, hy, hspan⟩ := ih (a := ⟨xs⟩) hmem rfl
        exact ⟨y, List.mem_cons_of_mem x hy, hspan⟩

theorem CharSet.not_contains_of_isApart {a b : CharSet} {c : Char} (h : a.isApart b = true)
    (ha : a.contains c = true) : b.contains c = false := by
  rw [← Bool.not_eq_true]
  intro hb
  obtain ⟨x, hx, hlox, hhix⟩ := exists_span_of_contains ha
  obtain ⟨y, hy, hloy, hhiy⟩ := exists_span_of_contains hb
  have hxy := List.all_eq_true.mp (List.all_eq_true.mp h x hx) y hy
  simp only [Bool.or_eq_true, decide_eq_true_eq] at hxy
  omega

namespace Regex.Program

variable {p : Program} {n m i : Nat} {c : Char} {ws threads : List Nat} {x y z : Place}

/-! ## Threads apart -/

/-- The first thread reads no character that the second one reads, nor has it found a match. -/
def apart (p : Program) (n m : Nat) : Bool :=
  match p.instr? n, p.instr? m with
  | some (.set s), some (.set s') => s.isApart s'
  | some (.set _), some .done => true
  | _, _ => false

/-- Of the threads that a thread slips to, each is apart from those that are worse. -/
def Deterministic (p : Program) : Prop :=
  ∀ n before after, (p.waiting before after [n]).Pairwise fun i j => p.apart i j = true

theorem apart_of_isDone (h : p.isDone n = true) (m : Nat) : p.apart n m = false := by
  rw [isDone, beq_iff_eq] at h
  rw [apart, h]

theorem mem_advance_iff : i ∈ p.advance c threads ↔
    ∃ m ∈ threads, ∃ s, p.instr? m = some (.set s) ∧ s.contains c = true ∧ i = m + 1 := by
  rw [advance, List.mem_filterMap]
  refine exists_congr fun m => and_congr_right fun _ => ?_
  split
  next s hs =>
    simp only [hs, Option.some.injEq, Instr.set.injEq, exists_eq_left']
    by_cases hc : s.contains c = true
    · rw [if_pos hc, Option.some.injEq, eq_comm]
      exact (and_iff_right hc).symm
    · rw [if_neg hc]
      exact iff_of_false (Option.some_ne_none i).symm fun h => hc h.1
  next hno =>
    refine iff_of_false (Option.some_ne_none i).symm ?_
    rintro ⟨s, hs, -⟩
    exact hno s hs

theorem advance_append (c : Char) (ws vs : List Nat) :
    p.advance c (ws ++ vs) = p.advance c ws ++ p.advance c vs := List.filterMap_append ..

/-- Behind a character at most one of threads that are apart goes on. -/
theorem length_advance_le_one (h : ws.Pairwise fun i j => p.apart i j = true) (c : Char) :
    (p.advance c ws).length ≤ 1 := by
  induction h with
  | nil => exact Nat.zero_le 1
  | @cons n ws hn _ ih =>
      rw [← List.singleton_append, advance_append, List.length_append]
      cases hread : p.advance c [n] with
      | nil => rwa [List.length_nil, Nat.zero_add]
      | cons j js =>
          -- The first thread reads the character, so none of the others does.
          obtain ⟨m, hm, s, hs, hc, -⟩ := mem_advance_iff.mp (hread ▸ List.mem_cons_self)
          obtain rfl := List.mem_singleton.mp hm
          have hothers : p.advance c ws = [] := by
            refine List.eq_nil_iff_forall_not_mem.mpr fun i hi => ?_
            obtain ⟨m', hm', s', hs', hc', -⟩ := mem_advance_iff.mp hi
            have hapart := hn m' hm'
            rw [apart, hs, hs'] at hapart
            rw [CharSet.not_contains_of_isApart hapart hc] at hc'
            cases hc'
          have hone : (p.advance c [m]).length ≤ [m].length := List.length_filterMap_le ..
          rw [hothers, ← hread]
          exact hone

/-- No thread stands behind one that has found a match, so none of those that read gives up. -/
theorem advance_takeWhile (h : ws.Pairwise fun i j => p.apart i j = true) (c : Char) :
    p.advance c (ws.takeWhile fun n => !p.isDone n) = p.advance c ws := by
  induction h with
  | nil => rfl
  | @cons n ws hn _ ih =>
      cases hdone : p.isDone n with
      | true =>
          have hlast : ws = [] := by
            refine List.eq_nil_iff_forall_not_mem.mpr fun m hm => ?_
            have hapart := hn m hm
            rw [apart_of_isDone hdone] at hapart
            cases hapart
          rw [hlast, List.takeWhile_cons_of_neg (by simp [hdone])]
          rw [isDone, beq_iff_eq] at hdone
          simp [advance, hdone]
      | false =>
          rw [List.takeWhile_cons_of_pos (by simp [hdone]), ← List.singleton_append,
            advance_append, ih, ← advance_append, List.singleton_append]

/-! ## Places where threads arrive -/

theorem Arrives.suffix {k : Nat} (h : p.Arrives k n x z) : z.ahead <:+ x.ahead := by
  induction h with
  | done _ => exact List.suffix_refl _
  | set _ _ _ ih => exact ih.trans (List.suffix_cons _ _)
  | look _ _ _ ih | first _ _ ih | second _ _ ih | jump _ _ ih => exact ih

/-- A thread that waits at the end of a text arrives there or nowhere. -/
theorem exists_arrives_nil_iff {before : Option Char} :
    (∃ k, p.Arrives k n ⟨before, []⟩ z) ↔
      (p.waiting before none [n]).any p.isDone = true ∧ z = ⟨before, []⟩ := by
  rw [exists_arrives_iff, List.any_eq_true]
  constructor
  · rintro ⟨m, hm, k, harr⟩
    obtain ⟨-, -, -, hwait⟩ := mem_waiting_iff.mp hm
    rw [waits] at hwait
    split at hwait
    next s hs =>
      obtain ⟨k', c, t, -, hahead, -⟩ := (arrives_set_iff hs).mp harr
      cases hahead
    next hdone => exact ⟨⟨m, hm, isDone_of_done hdone⟩, ((arrives_done_iff hdone).mp harr).2.symm⟩
    next => cases hwait
  · rintro ⟨⟨m, hm, hdone⟩, rfl⟩
    rw [isDone, beq_iff_eq] at hdone
    exact ⟨m, hm, 0, .done hdone⟩

/-- A thread that waits in front of a character arrives there or goes on behind it. -/
theorem exists_arrives_cons_iff {before : Option Char} {t : Text} :
    (∃ k, p.Arrives k n ⟨before, c :: t⟩ z) ↔
      (p.waiting before (some c) [n]).any p.isDone = true ∧ z = ⟨before, c :: t⟩ ∨
        ∃ i ∈ p.advance c (p.waiting before (some c) [n]), ∃ k, p.Arrives k i ⟨some c, t⟩ z := by
  rw [exists_arrives_iff, List.any_eq_true]
  constructor
  · rintro ⟨m, hm, k, harr⟩
    obtain ⟨-, -, -, hwait⟩ := mem_waiting_iff.mp hm
    rw [waits] at hwait
    split at hwait
    next s hs =>
      obtain ⟨k', d, u, -, hahead, hd, harr⟩ := (arrives_set_iff hs).mp harr
      cases hahead
      exact Or.inr ⟨m + 1, mem_advance_iff.mpr ⟨m, hm, s, hs, hd, rfl⟩, k', harr⟩
    next hdone =>
      exact Or.inl ⟨⟨m, hm, isDone_of_done hdone⟩, ((arrives_done_iff hdone).mp harr).2.symm⟩
    next => cases hwait
  · rintro (⟨⟨m, hm, hdone⟩, rfl⟩ | ⟨i, hi, k, harr⟩)
    · rw [isDone, beq_iff_eq] at hdone
      exact ⟨m, hm, 0, .done hdone⟩
    · obtain ⟨m, hm, s, hs, hc, rfl⟩ := mem_advance_iff.mp hi
      exact ⟨m, hm, k + 1, .set hs hc harr⟩

/-- A thread comes from the place to the other one, and to none that is further on. -/
structure Furthest (p : Program) (n : Nat) (x z : Place) : Prop where
  /-- The thread arrives. -/
  arrives : ∃ k, p.Arrives k n x z
  /-- No less text is left at any other place where it arrives. -/
  le : ∀ {z' k}, p.Arrives k n x z' → z.ahead.length ≤ z'.ahead.length

/-- What a run with one thread results in, given the match that was found before: the thread goes as
far as it can, and where it arrives nowhere the match stays. -/
def Outruns (p : Program) (n : Nat) (x : Place) (read : Nat) (best result : Option Nat) : Prop :=
  (∀ z k, ¬p.Arrives k n x z) ∧ result = best ∨
    ∃ z r, p.Furthest n x z ∧ result = some r ∧ r + z.ahead.length = read + x.ahead.length

/-- Where no thread goes on behind the next character, it matters whether one has arrived. -/
theorem outruns_of_stop {before : Option Char} {t : Text} {read : Nat} {best : Option Nat}
    (hno : ∀ z, ¬∃ i ∈ p.advance c (p.waiting before (some c) [n]),
      ∃ k, p.Arrives k i ⟨some c, t⟩ z) :
    p.Outruns n ⟨before, c :: t⟩ read best
      (if (p.waiting before (some c) [n]).any p.isDone then some read else best) := by
  split
  next hfound =>
    refine Or.inr ⟨⟨before, c :: t⟩, read, ⟨?_, fun {z' k} harr => ?_⟩, rfl, rfl⟩
    · exact exists_arrives_cons_iff.mpr (Or.inl ⟨hfound, rfl⟩)
    · obtain ⟨-, rfl⟩ := (exists_arrives_cons_iff.mp ⟨k, harr⟩).resolve_right (hno z')
      exact Nat.le_refl _
  next hnone =>
    refine Or.inl ⟨fun z k harr => ?_, rfl⟩
    exact hnone ((exists_arrives_cons_iff.mp ⟨k, harr⟩).resolve_right (hno z)).1

/-- Where one thread goes on behind the next character, it results in what that thread does. -/
theorem Outruns.of_next {before : Option Char} {t : Text} {read : Nat} {best result : Option Nat}
    (hone : p.advance c (p.waiting before (some c) [n]) = [m])
    (h : p.Outruns m ⟨some c, t⟩ (read + 1)
      (if (p.waiting before (some c) [n]).any p.isDone then some read else best) result) :
    p.Outruns n ⟨before, c :: t⟩ read best result := by
  rcases h with ⟨hno, rfl⟩ | ⟨z, r, hfar, hres, hlength⟩
  · refine outruns_of_stop fun z => ?_
    rw [hone]
    simpa using hno z
  · refine Or.inr ⟨z, r, ⟨?_, fun {z' k} harr => ?_⟩, hres, ?_⟩
    · refine exists_arrives_cons_iff.mpr (Or.inr ⟨m, ?_, hfar.arrives⟩)
      rw [hone]
      exact List.mem_cons_self
    · rcases exists_arrives_cons_iff.mp ⟨k, harr⟩ with ⟨-, rfl⟩ | ⟨i, hi, k', harr'⟩
      · -- The thread that goes on comes to no place in front of where it starts.
        obtain ⟨j, hz⟩ := hfar.arrives
        exact Nat.le_succ_of_le hz.suffix.length_le
      · rw [hone, List.mem_singleton] at hi
        exact hfar.le (hi ▸ harr')
    · dsimp only at hlength ⊢
      rw [hlength, List.length_cons]
      omega

/-- One thread of a deterministic program finds the furthest place at which it arrives. -/
theorem Deterministic.run_spec (h : p.Deterministic) : ∀ (t : Text) (n : Nat)
    (before : Option Char) (read : Nat) (best : Option Nat),
      p.Outruns n ⟨before, t⟩ read best (p.run before [n] read best t) := by
  intro t
  induction t with
  | nil =>
      intro n before read best
      rw [run]
      split
      next hfound =>
        refine Or.inr ⟨⟨before, []⟩, read, ⟨exists_arrives_nil_iff.mpr ⟨hfound, rfl⟩, ?_⟩, rfl, rfl⟩
        exact fun _ => Nat.zero_le _
      next hnone =>
        exact Or.inl ⟨fun z k harr => hnone (exists_arrives_nil_iff.mp ⟨k, harr⟩).1, rfl⟩
  | cons c t ih =>
      intro n before read best
      have hapart := h n before (some c)
      have hone := length_advance_le_one hapart c
      simp only [run, advance_takeWhile hapart]
      cases hread : p.advance c (p.waiting before (some c) [n]) with
      | nil =>
          refine outruns_of_stop fun z => ?_
          rw [hread]
          simp
      | cons m ms =>
          obtain rfl : ms = [] := by
            rw [hread, List.length_cons] at hone
            exact List.length_eq_zero_iff.mp (by omega)
          exact .of_next hread (ih m (some c) (read + 1) _)

/-! ## What is found -/

/-- A deterministic program that is anchored finds what stands in front of the furthest place at
which its first thread arrives. -/
theorem Deterministic.find?_eq_some_iff (h : p.Deterministic) (ha : p.Anchored) {t w u : Text} :
    p.find? t = some (w, u) ↔ t = w ++ u ∧ ∃ z, z.ahead = u ∧ p.Furthest 0 ⟨none, t⟩ z := by
  rcases h.run_spec t 0 none 0 none with ⟨hno, hrun⟩ | ⟨z, r, hfar, hrun, hlength⟩
  · have hnone : p.find? t = none := ha.find?_of_matchLength? hrun
    rw [hnone]
    refine ⟨nofun, ?_⟩
    rintro ⟨-, z, -, hfar⟩
    obtain ⟨k, harr⟩ := hfar.arrives
    exact absurd harr (hno z k)
  · have hsome : p.find? t = some (t.take r, t.drop r) := by
      rw [ha.find?_eq, matchLength?, hrun]
      rfl
    have hrest : z.ahead = t.drop r := by
      obtain ⟨k, harr⟩ := hfar.arrives
      obtain ⟨v, hv⟩ := harr.suffix
      dsimp only at hv hlength
      have hr : r = v.length := by
        have := congrArg List.length hv
        rw [List.length_append] at this
        omega
      rw [← hv, hr, List.drop_left]
    rw [hsome, Option.some.injEq, Prod.mk.injEq]
    constructor
    · rintro ⟨rfl, rfl⟩
      exact ⟨(List.take_append_drop r t).symm, z, hrest, hfar⟩
    · rintro ⟨ht, z', rfl, hfar'⟩
      obtain ⟨k, harr⟩ := hfar.arrives
      obtain ⟨k', harr'⟩ := hfar'.arrives
      -- Of two furthest places neither leaves more, and what they leave ends the same text.
      have hsame : z'.ahead = z.ahead :=
        (List.suffix_of_suffix_length_le harr'.suffix harr.suffix (hfar'.le harr)).eq_of_length_le
          (hfar.le harr')
      rw [hsame, hrest] at ht ⊢
      exact ⟨List.append_cancel_right ((List.take_append_drop r t).trans ht), rfl⟩

theorem Deterministic.find?_eq_none_iff (h : p.Deterministic) (ha : p.Anchored) {t : Text} :
    p.find? t = none ↔ ∀ z k, ¬p.Arrives k 0 ⟨none, t⟩ z := by
  rcases h.run_spec t 0 none 0 none with ⟨hno, hrun⟩ | ⟨z, r, hfar, hrun, -⟩
  · exact ⟨fun _ => hno, fun _ => ha.find?_of_matchLength? hrun⟩
  · rw [ha.find?_eq, matchLength?, hrun]
    obtain ⟨k, harr⟩ := hfar.arrives
    exact iff_of_false (Option.some_ne_none _) fun hno => hno z k harr

/-! ## Checking programs -/

/-- The program looks at nothing but the start of the text and is deterministic, as far as its
instructions show it one by one. -/
def isDeterministic (p : Program) : Bool :=
  (p.instrs.all fun i => !i.looksAhead) &&
    (List.range p.size).all fun n => [none, some ' '].all fun before =>
      decide ((p.waiting before none [n]).Pairwise fun i j => p.apart i j = true)

/-- A thread without an instruction does not wait. -/
theorem waiting_eq_nil {before after : Option Char} (h : p.instr? n = none) :
    p.waiting before after [n] = [] := by
  refine List.eq_nil_iff_forall_not_mem.mpr fun m hm => ?_
  obtain ⟨i, hi, hreach, hwait⟩ := mem_waiting_iff.mp hm
  obtain rfl := List.mem_singleton.mp hi
  rcases hreach.cases_head with rfl | ⟨j, hslip, -⟩
  · rw [waits, h] at hwait
    cases hwait
  · rw [slips, h] at hslip
    cases hslip

theorem deterministic_of_check (h : p.isDeterministic = true) : p.Deterministic := by
  rw [isDeterministic, Bool.and_eq_true] at h
  obtain ⟨hlooks, hcheck⟩ := h
  have hlooks : ∀ i ∈ p.instrs, i.looksAhead = false := fun i hi => by
    simpa using Array.all_eq_true_iff_forall_mem.mp hlooks i hi
  intro n before after
  by_cases hn : n < p.size
  · have hcheck := List.all_eq_true.mp hcheck n (List.mem_range.mpr hn)
    have hpair (start : Option Char) (hstart : start ∈ [none, some ' ']) :=
      of_decide_eq_true (List.all_eq_true.mp hcheck start hstart)
    cases before with
    | none =>
        rw [waiting_congr (slips_eq_of_looksAhead hlooks rfl after none)]
        exact hpair none (by simp)
    | some c =>
        -- All that a thread sees of the character in front is that there is one.
        have hblank : (some c).isNone = (some ' ').isNone := rfl
        rw [waiting_congr (slips_eq_of_looksAhead hlooks hblank after none)]
        exact hpair (some ' ') (by simp)
  · rw [waiting_eq_nil (Array.getElem?_eq_none (Nat.not_lt.mp hn))]
    exact .nil

end Regex.Program

/-! ## Expressions -/

namespace Regex.Expr

variable {a : Expr} {t w u : Text}

/-- An expression with a deterministic program that is anchored finds the longest piece that it
matches at the front. -/
theorem find?_program_eq_some_iff (h : a.program.Deterministic) (ha : a.program.Anchored) :
    a.program.find? t = some (w, u) ↔ t = w ++ u ∧ ∃ z, z.ahead = u ∧ a.Matches ⟨none, t⟩ z ∧
      ∀ z', a.Matches ⟨none, t⟩ z' → u.length ≤ z'.ahead.length := by
  rw [h.find?_eq_some_iff ha]
  refine and_congr_right fun _ => exists_congr fun z => and_congr_right ?_
  rintro rfl
  constructor
  · intro hfar
    refine ⟨arrives_program_iff.mp hfar.arrives, fun z' hz' => ?_⟩
    obtain ⟨k, harr⟩ := arrives_program_iff.mpr hz'
    exact hfar.le harr
  · rintro ⟨hmatch, hle⟩
    exact ⟨arrives_program_iff.mpr hmatch, fun harr => hle _ (arrives_program_iff.mp ⟨_, harr⟩)⟩

theorem find?_program_eq_none_iff (h : a.program.Deterministic) (ha : a.program.Anchored) :
    a.program.find? t = none ↔ ∀ z, ¬a.Matches ⟨none, t⟩ z := by
  rw [h.find?_eq_none_iff ha]
  refine forall_congr' fun z => ?_
  rw [← not_exists, arrives_program_iff]

end Regex.Expr

end Descent
