import Descent.Proofs.Matches
import Descent.Proofs.Simulation

/-!
# Refactoring

Choices may be regrouped, a common front of two alternatives may be taken out, an option is a choice
that can be empty, and a rule stands for its definition.  A grammar that is rewritten by these laws,
in its parser and in the definitions of its rules, step after step, makes of every text what it made
of it before, up to diagnostics (`refactoring_safe`): the laws change which mismatch is reported, and
that is all they change.

A law is first stated for the outcomes of parts that are run by the same rules
(`agrees_choice_assoc`, `agrees_factor`).  What rules do under the laws is settled by
`RuleBook.simulates_of_rewritten`.
-/

namespace Descent

variable {M : Type}

/-! ## Errors up to diagnostics -/

/-- The errors are both mismatches, or they are the same fault, which may cite another
description. -/
inductive ParseError.Akin : ParseError → ParseError → Prop where
  | mismatch {e e'} : e.isRecoverable = true → e'.isRecoverable = true → Akin e e'
  | unbound (name) : Akin (.unbound name) (.unbound name)
  | mapping {x x'} (actual reason) : Akin (.mapping x actual reason) (.mapping x' actual reason)

namespace ParseError.Akin

variable {e e' e'' : ParseError}

theorem isRecoverable_eq (h : Akin e e') : e.isRecoverable = e'.isRecoverable := by
  cases h with
  | mismatch h h' => rw [h, h']
  | unbound name => rfl
  | mapping actual reason => rfl

theorem refl (e : ParseError) : Akin e e := by
  cases e with
  | unbound name => exact .unbound name
  | mapping x actual reason => exact .mapping actual reason
  | literal _ _ | pattern _ _ | choice _ _ | repetition _ _ => exact .mismatch rfl rfl

theorem symm (h : Akin e e') : Akin e' e := by
  cases h with
  | mismatch h h' => exact .mismatch h' h
  | unbound name => exact .unbound name
  | mapping actual reason => exact .mapping actual reason

theorem trans (h : Akin e e') (h' : Akin e' e'') : Akin e e'' := by
  cases h with
  | mismatch h₁ h₂ => exact .mismatch h₁ (h'.isRecoverable_eq ▸ h₂)
  | unbound name => exact h'
  | mapping actual reason =>
      cases h' with
      | mismatch h₁ _ => cases h₁
      | mapping _ _ => exact .mapping actual reason

end ParseError.Akin

/-- Errors are taken for the same up to diagnostics. -/
def Tolerance.upToDiagnostics : Tolerance where
  errors := ParseError.Akin
  strict := False
  equivalence := ⟨.refl, .symm, .trans⟩
  isRecoverable_eq := ParseError.Akin.isRecoverable_eq
  choice _ _ := .mismatch rfl rfl
  repetition _ _ := .mismatch rfl rfl
  mapping _ t reason := .mapping t reason

/-! ## Laws between outcomes -/

namespace Outcome

variable {o s : Outcome M}

/-- Something else may be tried after the outcome. -/
def IsMismatch (o : Outcome M) : Prop := ∃ e, o = .failed e ∧ e.isRecoverable = true

theorem IsMismatch.orElse_eq (h : o.IsMismatch) (s : Outcome M) : o.orElse s = s := by
  obtain ⟨e, rfl, he⟩ := h
  rw [orElse_failed, if_pos he]

theorem orElse_eq_of_not_isMismatch (h : ¬o.IsMismatch) (s : Outcome M) : o.orElse s = o := by
  cases o with
  | matched m => rfl
  | failed e => rw [orElse_failed, if_neg fun he => h ⟨e, rfl, he⟩]
  | aborted a => rfl
  | unfinished => rfl

theorem isMismatch_choice (x t : Text) : (failed (.choice x t) : Outcome M).IsMismatch :=
  ⟨_, rfl, rfl⟩

/-- What follows a match and matches does not change whether something else is tried. -/
theorem isMismatch_andThen_iff {f : Match M → Match M} :
    (o.andThen fun m => matched (f m)).IsMismatch ↔ o.IsMismatch := by
  cases o with
  | matched m => exact ⟨nofun, nofun⟩
  | failed e => exact Iff.rfl
  | aborted a => exact Iff.rfl
  | unfinished => exact Iff.rfl

theorem IsMismatch.agrees (h : o.IsMismatch) (h' : s.IsMismatch) :
    Tolerance.upToDiagnostics.Agrees o s := by
  obtain ⟨e, rfl, he⟩ := h
  obtain ⟨e', rfl, he'⟩ := h'
  exact .failed (.mismatch he he')

end Outcome

open Outcome

theorem agrees_choice_assoc (run : Rule → Text → Run M) (p q s : Parser M) (t : Text) :
    Tolerance.upToDiagnostics.Agrees ((Parser.choice (.choice p q) s).body run t).outcome
      ((Parser.choice p (.choice q s)).body run t).outcome := by
  simp only [Parser.body, Run.outcome_onMismatch, Run.outcome_asCall, Run.outcome_pure]
  by_cases hp : (p.body run t).outcome.IsMismatch
  · by_cases hq : (q.body run t).outcome.IsMismatch
    · by_cases hs : (s.body run t).outcome.IsMismatch
      · simp only [hp.orElse_eq, hq.orElse_eq, hs.orElse_eq, (isMismatch_choice _ _).orElse_eq]
        exact (isMismatch_choice _ _).agrees (isMismatch_choice _ _)
      · simp only [hp.orElse_eq, hq.orElse_eq, orElse_eq_of_not_isMismatch hs,
          (isMismatch_choice _ _).orElse_eq]
        exact .refl _ _
    · simp only [hp.orElse_eq, orElse_eq_of_not_isMismatch hq]
      exact .refl _ _
  · simp only [orElse_eq_of_not_isMismatch hp]
    exact .refl _ _

/-- What is done behind a match may be done behind each alternative. -/
theorem agrees_andThen_orElse (o s : Outcome M) (f : Match M → Match M) (x x' t u : Text) :
    Tolerance.upToDiagnostics.Agrees
      ((o.andThen fun m => matched (f m)).orElse
        ((s.andThen fun m => matched (f m)).orElse (failed (.choice x t))))
      ((o.orElse (s.orElse (failed (.choice x' u)))).andThen fun m => matched (f m)) := by
  by_cases ho : o.IsMismatch
  · rw [(isMismatch_andThen_iff.mpr ho).orElse_eq, ho.orElse_eq]
    by_cases hs : s.IsMismatch
    · rw [(isMismatch_andThen_iff.mpr hs).orElse_eq, hs.orElse_eq]
      exact (isMismatch_choice _ _).agrees (isMismatch_choice _ _)
    · rw [orElse_eq_of_not_isMismatch hs,
        orElse_eq_of_not_isMismatch (mt isMismatch_andThen_iff.mp hs)]
      exact .refl _ _
  · rw [orElse_eq_of_not_isMismatch ho,
      orElse_eq_of_not_isMismatch (mt isMismatch_andThen_iff.mp ho)]
    exact .refl _ _

/-- The front is run at the same text for both alternatives, so it comes to the same outcome. -/
theorem agrees_factor (run : Rule → Text → Run M) (p q s : Parser M) (t : Text) :
    Tolerance.upToDiagnostics.Agrees ((Parser.choice (.seq p q) (.seq p s)).body run t).outcome
      ((Parser.seq p (.choice q s)).body run t).outcome := by
  simp only [Parser.body, Run.outcome_onMismatch, Run.outcome_onMatch, Run.outcome_asCall,
    Run.outcome_pure]
  cases (p.body run t).outcome with
  | matched m => exact agrees_andThen_orElse _ _ _ _ _ _ _
  | failed e =>
      by_cases he : (failed e : Outcome M).IsMismatch
      · rw [andThen_failed, andThen_failed, andThen_failed, he.orElse_eq, he.orElse_eq]
        exact (isMismatch_choice _ _).agrees he
      · rw [andThen_failed, andThen_failed, andThen_failed, orElse_eq_of_not_isMismatch he]
        exact .refl _ _
  | aborted a => exact .refl _ _
  | unfinished => exact .refl _ _

/-! ## Rewriting by laws -/

/-- The parser matches every text, reads nothing of it and puts out nothing. -/
def RuleBook.AlwaysEmpty (b : RuleBook M) (p : Parser M) : Prop :=
  ∀ t, ∃ fuel, (p.call (b.resolve fuel) t).outcome = .matched (.empty t)

/-- The laws by which the first book is rewritten into the second.  A definition may be put for its
rule where it is the definition in the first book, and a rule for its definition in either. -/
inductive Refactoring (b b' : RuleBook M) : Parser M → Parser M → Prop where
  | groupRight {p q s} : Refactoring b b' (.choice (.choice p q) s) (.choice p (.choice q s))
  | groupLeft {p q s} : Refactoring b b' (.choice p (.choice q s)) (.choice (.choice p q) s)
  | factorOut {p q s} :
      Refactoring b b' (.choice (.seq p q) (.seq p s)) (.seq p (.choice q s))
  | multiplyOut {p q s} :
      Refactoring b b' (.seq p (.choice q s)) (.choice (.seq p q) (.seq p s))
  | orEmpty {p e} : b.AlwaysEmpty e → Refactoring b b' (.optional p) (.choice p e)
  | optional {p e} : b.AlwaysEmpty e → Refactoring b b' (.choice p e) (.optional p)
  | unfold {r d} : b.definition? r = some d → Refactoring b b' (.rule r) d
  | fold {r d} : b.definition? r = some d → Refactoring b b' d (.rule r)
  | foldNew {r d} : b'.definition? r = some d → Refactoring b b' d (.rule r)

/-- The parser and the definitions of the rules are rewritten, at any number of places. -/
def Refactored (g g' : RuleBook M × Parser M) : Prop :=
  RuleBook.Rewritten (Refactoring g.1 g'.1) g.1 g'.1 ∧
    Parser.Rewritten (Refactoring g.1 g'.1) g.2 g'.2

namespace RuleBook

variable {b b' : RuleBook M} {p q e : Parser M} {t : Text}

theorem AlwaysEmpty.eventually (h : b.AlwaysEmpty e) (t : Text) :
    ∀ᶠ n in Filter.atTop, (e.body (b.resolve n) t).outcome = .matched (.empty t) := by
  obtain ⟨fuel, hfuel⟩ := h t
  have finished : (e.call (b.resolve fuel) t).outcome ≠ .unfinished := by
    rw [hfuel]
    exact nofun
  refine (eventually_call_eq finished).mono fun n hn => ?_
  rw [← hfuel, ← hn]
  rfl

/-- A parser that simulates itself is always empty where it finishes at all, if it is with fuel
enough. -/
theorem AlwaysEmpty.eq_of_simulates {T : Tolerance} (h : b.AlwaysEmpty e)
    {run : Rule → Text → Run M} (self : T.Simulates b.resolve run e e)
    (finished : (e.body run t).outcome ≠ .unfinished) :
    (e.body run t).outcome = .matched (.empty t) := by
  obtain ⟨n, hn, hempty⟩ := ((self.covers t finished).and (h.eventually t)).exists
  simp only [hempty] at hn
  generalize (e.body run t).outcome = o at hn
  cases hn
  rfl

/-- A parser that agrees with another under the same rules simulates it, if it simulates itself. -/
theorem simulates_of_agrees {run : Rule → Text → Run M}
    (self : Tolerance.upToDiagnostics.Simulates b.resolve run p p)
    (h : ∀ t, Tolerance.upToDiagnostics.Agrees (p.body run t).outcome (q.body run t).outcome) :
    Tolerance.upToDiagnostics.Simulates b.resolve run p q :=
  ⟨False.elim, fun t => (self.covers t).trans_agrees (h t)⟩

/-- Every law is simulated. -/
theorem simulates_of_refactoring (hb : Rewritten (Refactoring b b') b b')
    {run : Rule → Text → Run M}
    (self : ∀ p, Tolerance.upToDiagnostics.Simulates b.resolve run p p)
    (defined : ∀ p d r, Parser.Rewritten (Refactoring b b') p d → b'.definition? r = some d →
      ∀ t, Tolerance.upToDiagnostics.Covers (fun n => (p.body (b.resolve n) t).outcome)
        (run r t).outcome)
    (h : Refactoring b b' p q) : Tolerance.upToDiagnostics.Simulates b.resolve run p q := by
  cases h with
  | groupRight => exact simulates_of_agrees (self _) fun t => agrees_choice_assoc run _ _ _ t
  | groupLeft => exact simulates_of_agrees (self _) fun t => (agrees_choice_assoc run _ _ _ t).symm
  | factorOut => exact simulates_of_agrees (self _) fun t => agrees_factor run _ _ _ t
  | multiplyOut => exact simulates_of_agrees (self _) fun t => (agrees_factor run _ _ _ t).symm
  | orEmpty he =>
      refine ⟨False.elim, fun t => ?_⟩
      simp only [Parser.body, Run.outcome_onMismatch, Run.outcome_asCall, Run.outcome_pure]
      refine ((self _).covers t).orElse fun hfin => .of_forall fun _ => ?_
      rw [he.eq_of_simulates (self _) fun h => hfin (by rw [h]; rfl)]
      exact .refl _ _
  | optional he =>
      refine ⟨False.elim, fun t => ?_⟩
      simp only [Parser.body, Run.outcome_onMismatch, Run.outcome_asCall, Run.outcome_pure]
      refine ((self _).covers t).orElse fun _ => (he.eventually t).mono fun n hn => ?_
      rw [hn]
      exact .refl _ _
  | unfold hd =>
      refine ⟨False.elim, fun t => .of_succ ?_⟩
      simp only [Parser.body, resolve, hd]
      exact (self q).covers t
  | @fold r _ hd =>
      have hr := hb r
      rw [hd] at hr
      generalize hd' : b'.definition? r = x at hr
      cases hr with
      | some hpd => exact ⟨False.elim, fun t => defined _ _ r hpd hd' t⟩
  | foldNew hd => exact ⟨False.elim, fun t => defined _ _ _ (.refl _) hd t⟩

theorem refines_of_refactored {g g' : RuleBook M × Parser M} (h : Refactored g g') :
    Tolerance.upToDiagnostics.Refines g g' := fun n t =>
  (simulates_of_rewritten h.1
    (fun _ self defined _ _ => simulates_of_refactoring h.1 self defined) n h.2).covers t

theorem refines_of_steps {g g' : RuleBook M × Parser M}
    (h : Relation.ReflTransGen Refactored g g') : Tolerance.upToDiagnostics.Refines g g' := by
  induction h with
  | refl => exact .refl _ g
  | tail _ hstep ih => exact ih.trans (refines_of_refactored hstep)

end RuleBook

/-- A grammar that has been rewritten step after step makes of a text on which both finish what it
made of it before, with the same output and the same rest, the same fault but for its description,
or a mismatch in both cases. -/
theorem refactoring_safe {g g' : RuleBook M × Parser M}
    (h : Relation.ReflTransGen Refactored g g') {t : Text} {n n' : Nat} {o o' : Outcome M}
    (ho : (g.2.call (g.1.resolve n) t).outcome = o)
    (ho' : (g'.2.call (g'.1.resolve n') t).outcome = o') (finished : o ≠ .unfinished)
    (finished' : o' ≠ .unfinished) :
    (∃ m, o = .matched m ∧ o' = .matched m) ∨
    (∃ e e', o = .failed e ∧ o' = .failed e' ∧ e.Akin e') ∨
    ∃ a, o = .aborted a ∧ o' = .aborted a := by
  subst ho
  subst ho'
  have agrees := (RuleBook.refines_of_steps h).agrees finished finished'
  generalize (g.2.call (g.1.resolve n) t).outcome = o at agrees finished
  generalize (g'.2.call (g'.1.resolve n') t).outcome = o' at agrees finished'
  cases agrees with
  | matched m => exact Or.inl ⟨m, rfl, rfl⟩
  | @failed e e' he => exact Or.inr (Or.inl ⟨e, e', rfl, rfl, he⟩)
  | aborted a => exact Or.inr (Or.inr ⟨a, rfl, rfl⟩)
  | unfinished => exact absurd rfl finished

/-- Brackets in each other. -/
def nested : Parser Unit :=
  .choice (.seq (.literal ['[']) (.seq (.rule ⟨0, ['n']⟩) (.literal [']'])))
    (.seq (.literal ['[']) (.literal [']']))

/-- The same with the first bracket in front of the choice. -/
def nestedFactored : Parser Unit :=
  .seq (.literal ['['])
    (.choice (.seq (.rule ⟨0, ['n']⟩) (.literal [']'])) (.literal [']']))

/-- The bracket is taken out in the definition of the rule and the option becomes a choice; then the
rule gives way to its new definition, in which it still occurs. -/
theorem refactoring_safe_nested :
    let b : RuleBook Unit := ⟨1, [(⟨0, ['n']⟩, nested)]⟩
    let b' : RuleBook Unit := ⟨1, [(⟨0, ['n']⟩, nestedFactored)]⟩
    let nothing : Parser Unit := .custom [] fun t => .ok (.empty t)
    let p : Parser Unit := .optional (.rule ⟨0, ['n']⟩)
    let p' : Parser Unit := .choice nestedFactored nothing
    Relation.ReflTransGen Refactored (b, p) (b', p') ∧
      ∃ m, b.parse p "[[]]!".toList = .matched m ∧ m.rest = ['!'] ∧
        b'.parse p' "[[]]!".toList = .matched m := by
  intro b b' nothing p p'
  have empty : b.AlwaysEmpty nothing := fun t => ⟨0, rfl⟩
  have first : Refactored (b, p) (b', .choice (.rule ⟨0, ['n']⟩) nothing) := by
    exact ⟨.of_definitions (.cons ⟨rfl, .law .factorOut⟩ .nil), .law (.orEmpty empty)⟩
  have second : Refactored (b', .choice (.rule ⟨0, ['n']⟩) nothing) (b', p') :=
    ⟨.refl b', .choice (.law (.unfold rfl)) (.refl nothing)⟩
  have steps : Relation.ReflTransGen Refactored (b, p) (b', p') := .tail (.single first) second
  have read : (b.parse p "[[]]!".toList).match?.map Match.rest = some ['!'] := by decide +kernel
  have finished : (b'.parse p' "[[]]!".toList).match?.isSome := by decide +kernel
  obtain ⟨m, hm, hrest⟩ := Option.map_eq_some_iff.mp read
  obtain ⟨m', hm'⟩ := Option.isSome_iff_exists.mp finished
  rw [Outcome.match?_eq_some_iff] at hm hm'
  refine ⟨steps, m, hm, hrest, ?_⟩
  rcases refactoring_safe steps hm hm' nofun nofun with ⟨n, hn, hn'⟩ | ⟨e, e', he, -⟩ | ⟨a, ha, -⟩
  · cases hn
    cases hn'
    exact hm'
  · cases he
  · cases ha

end Descent
