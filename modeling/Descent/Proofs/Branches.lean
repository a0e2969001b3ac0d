import Descent.Proofs.Readings

/-!
# Choices between many branches

A choice between any number of branches is put together from the left, so each branch but the first
is the second half of a choice of its own.  All branches are run at the text that the whole choice is
run at, one after the other, up to the first that does not reject it; the outcome is that of this
branch and nothing of the branches behind it starts (`Parser.firstOf_ordered`).  If all of them
reject the text, so does the choice.  Each of the choices inside it fails with an error of its own
then, but only the last error is seen, and it cites the descriptions of all branches.
-/

namespace Descent

variable {M : Type}

/-- The first two of the texts may be put together before the others. -/
theorem Text.joinWith_cons_cons (sep t u : Text) (ts : List Text) :
    joinWith sep (t :: u :: ts) = joinWith sep ((t ++ sep ++ u) :: ts) := by
  cases ts with
  | nil => rfl
  | cons v ts => simp [joinWith]

namespace Run

theorem onMismatch_eq_self {r : Run M} (h : ¬r.outcome.IsMismatch) (k : ParseError → Run M) :
    r.onMismatch k = r := by
  unfold onMismatch
  split
  next e he => rw [if_neg fun hrec => h ⟨e, he, hrec⟩]
  next => rfl

theorem onMismatch_eq_after {r : Run M} (h : r.outcome.IsMismatch) (s : Run M) :
    r.onMismatch (fun _ => s) = s.after r.calls := by
  obtain ⟨e, he, hrec⟩ := h
  simp only [onMismatch, he, hrec, if_true]

end Run

namespace Parser

/-! ## The choices that a choice between many is made of -/

/-- The choice between a parser and others, put together from the left. -/
def firstOf (p : Parser M) (qs : List (Parser M)) : Parser M := qs.foldl choice p

/-- The choices that the choice between many is made of, the outermost first. -/
def choices (p : Parser M) : List (Parser M) → List (Parser M)
  | [] => []
  | q :: qs => choices (choice p q) qs ++ [choice p q]

theorem firstOf_cons (p q : Parser M) (qs : List (Parser M)) :
    firstOf p (q :: qs) = firstOf (choice p q) qs := rfl

theorem firstOf_concat (p : Parser M) (qs : List (Parser M)) (q : Parser M) :
    firstOf p (qs ++ [q]) = choice (firstOf p qs) q := List.foldl_concat ..

theorem expected_firstOf (p : Parser M) (qs : List (Parser M)) :
    (firstOf p qs).expected = Text.joinWith " | ".toList ((p :: qs).map expected) := by
  induction qs generalizing p with
  | nil => rfl
  | cons q qs ih =>
      rw [firstOf_cons, ih, List.map_cons, List.map_cons, List.map_cons, Text.joinWith_cons_cons]
      rfl

/-! ## One choice -/

section Outcomes

variable {run : Rule → Text → Run M} {p q : Parser M} {t : Text}

theorem outcome_choice_of_not_rejects (h : ¬p.Rejects run t) :
    ((choice p q).body run t).outcome = (p.body run t).outcome := by
  rw [outcome_choice, Outcome.orElse_eq_of_not_isMismatch h]

/-- The second branch gives its outcome as it is, unless it rejects the text too. -/
theorem outcome_choice_of_rejects (hp : p.Rejects run t) (hq : ¬q.Rejects run t) :
    ((choice p q).body run t).outcome = (q.body run t).outcome := by
  rw [outcome_choice, hp.orElse_eq, Outcome.orElse_eq_of_not_isMismatch hq]

theorem started_choice_of_not_rejects (h : ¬p.Rejects run t) :
    ((choice p q).call run t).started = (choice p q).toCall run t :: (p.call run t).started := by
  have first : ¬((p.body run t).asCall p t).outcome.IsMismatch := h
  have hcalls : ((choice p q).body run t).calls = [p.toCall run t] := by
    rw [body, Run.onMismatch_eq_self first]
    rfl
  rw [started_call, Call.started_eq, calls_toCall, hcalls, List.flatMap_singleton, started_call]

theorem started_choice_of_rejects (h : p.Rejects run t) :
    ((choice p q).call run t).started =
      (choice p q).toCall run t :: ((p.call run t).started ++ (q.call run t).started) := by
  have first : ((p.body run t).asCall p t).outcome.IsMismatch := h
  have hcalls : ((choice p q).body run t).calls = [p.toCall run t, q.toCall run t] := by
    rw [body, Run.onMismatch_eq_after first]
    by_cases hq : ((q.body run t).asCall q t).outcome.IsMismatch
    · rw [Run.onMismatch_eq_after hq]
      rfl
    · rw [Run.onMismatch_eq_self hq]
      rfl
  rw [started_call, Call.started_eq, calls_toCall, hcalls, started_call, started_call]
  simp

/-! ## Many choices -/

/-- The calls that start when branches are run in a choice between many: those of the choices that
it is made of, and then those of the branches. -/
def startedIn (run : Rule → Text → Run M) (t : Text) (choices branches : List (Parser M)) :
    List (Call M) :=
  choices.map (fun c => c.toCall run t) ++ branches.flatMap fun x => (x.call run t).started

/-- The first branch that does not reject the text decides, and no branch behind it is run. -/
theorem firstOf_of_decided {qs before after : List (Parser M)} {d : Parser M}
    (hd : ¬d.Rejects run t) (hsplit : p :: qs = before ++ d :: after)
    (hbefore : ∀ x ∈ before, x.Rejects run t) :
    ((firstOf p qs).call run t).outcome = (d.call run t).outcome ∧
      ((firstOf p qs).call run t).started = startedIn run t (choices p qs) (before ++ [d]) := by
  induction qs generalizing p d before after with
  | nil =>
      cases before with
      | nil =>
          cases hsplit
          exact ⟨rfl, by simp [startedIn, choices, firstOf]⟩
      | cons x before => simp at hsplit
  | cons q qs ih =>
      cases before with
      | nil =>
          cases hsplit
          have same := outcome_choice_of_not_rejects (q := q) hd
          have hpq : ¬(choice p q).Rejects run t := by rwa [Rejects, same]
          have first : choice p q :: qs = [] ++ choice p q :: qs := rfl
          obtain ⟨houtcome, hstarted⟩ := ih hpq first (List.forall_mem_nil _)
          refine ⟨houtcome.trans same, hstarted.trans ?_⟩
          simp [startedIn, choices, started_choice_of_not_rejects hd]
      | cons x before =>
          simp only [List.cons_append, List.cons.injEq] at hsplit
          obtain ⟨rfl, hsplit⟩ := hsplit
          obtain ⟨hp, hbefore⟩ := List.forall_mem_cons.mp hbefore
          cases before with
          | nil =>
              cases hsplit
              have same := outcome_choice_of_rejects hp hd
              have hpq : ¬(choice p q).Rejects run t := by rwa [Rejects, same]
              have first : choice p q :: qs = [] ++ choice p q :: qs := rfl
              obtain ⟨houtcome, hstarted⟩ := ih hpq first (List.forall_mem_nil _)
              refine ⟨houtcome.trans same, hstarted.trans ?_⟩
              simp [startedIn, choices, started_choice_of_rejects hp]
          | cons y before =>
              simp only [List.cons_append, List.cons.injEq] at hsplit
              obtain ⟨rfl, hsplit⟩ := hsplit
              obtain ⟨hq, hbefore⟩ := List.forall_mem_cons.mp hbefore
              -- to the choices around them the two branches are one, which rejects the text
              have rejects : ∀ x ∈ choice p q :: before, x.Rejects run t :=
                List.forall_mem_cons.mpr ⟨hp.choice hq, hbefore⟩
              obtain ⟨houtcome, hstarted⟩ := ih hd (congrArg (choice p q :: ·) hsplit) rejects
              refine ⟨houtcome, hstarted.trans ?_⟩
              simp [startedIn, choices, started_choice_of_rejects hp]

/-- If all branches reject the text, so does the choice, and all of them are run. -/
theorem firstOf_of_rejects : ∀ {qs : List (Parser M)} {p : Parser M},
    (∀ x ∈ p :: qs, x.Rejects run t) → (firstOf p qs).Rejects run t ∧
      ((firstOf p qs).call run t).started = startedIn run t (choices p qs) (p :: qs)
  | [], p, h => by
      refine ⟨h p (List.mem_singleton.mpr rfl), ?_⟩
      simp [startedIn, choices, firstOf]
  | q :: qs, p, h => by
      obtain ⟨hp, h⟩ := List.forall_mem_cons.mp h
      obtain ⟨hq, h⟩ := List.forall_mem_cons.mp h
      obtain ⟨hrejects, hstarted⟩ :=
        firstOf_of_rejects (List.forall_mem_cons.mpr ⟨hp.choice hq, h⟩)
      refine ⟨hrejects, hstarted.trans ?_⟩
      simp [startedIn, choices, started_choice_of_rejects hp]

end Outcomes

/-- A choice between two branches or more runs them in order, all at the text that it is run at.
The first that does not reject the text decides what the choice does, and nothing of the branches
behind it starts.  If all of them reject the text, the error of the choice cites the text as it is
and the descriptions of all branches. -/
theorem firstOf_ordered (b : RuleBook M) (fuel : Nat) (t : Text) (p : Parser M)
    (ps : List (Parser M)) (q : Parser M) :
    let run := b.resolve fuel
    let c := firstOf p (ps ++ [q])
    (∀ before d after, p :: ps ++ [q] = before ++ d :: after →
      (∀ x ∈ before, x.Rejects run t) → ¬d.Rejects run t →
        (c.call run t).outcome = (d.call run t).outcome ∧
        (c.call run t).started = startedIn run t (choices p (ps ++ [q])) (before ++ [d])) ∧
    ((∀ x ∈ p :: ps ++ [q], x.Rejects run t) →
      (c.call run t).outcome = .failed (.choice
        (Text.joinWith " | ".toList ((p :: ps).map expected) ++ "|".toList ++ q.expected) t) ∧
      (c.call run t).started = startedIn run t (choices p (ps ++ [q])) (p :: ps ++ [q])) := by
  intro run c
  refine ⟨fun before d after hsplit hbefore hd => firstOf_of_decided hd hsplit hbefore, fun h => ?_⟩
  have hps : (firstOf p ps).Rejects run t :=
    (firstOf_of_rejects fun x hx => h x (List.mem_append_left [q] hx)).1
  have hq : q.Rejects run t := h q (by simp)
  refine ⟨?_, (firstOf_of_rejects h).2⟩
  show ((firstOf p (ps ++ [q])).body run t).outcome = _
  rw [firstOf_concat, outcome_choice, hps.orElse_eq, hq.orElse_eq, expected_firstOf]

/-- The first branch reads an `a` and fails behind it; the second starts at the `a` again and reads
both characters, and the rule behind it is not called.  In front of the second the rule would be a
fault.  Where nothing matches, the blank is still there. -/
theorem firstOf_ordered_backtracks :
    let run := (RuleBook.empty : RuleBook Unit).resolve 1
    let ab : Parser Unit := .seq (.literal ['a']) (.literal ['b'])
    let ac : Parser Unit := .seq (.literal ['a']) (.literal ['c'])
    let u : Parser Unit := .rule ⟨0, ['u']⟩
    (((firstOf ab [ac, u]).call run ['a', 'c']).outcome = .matched ⟨.sequence [], []⟩ ∧
      ((firstOf ab [ac, u]).call run ['a', 'c']).started.map Call.parser =
        [.choice (.choice ab ac) u, .choice ab ac, ab, .literal ['a'], .literal ['b'],
          ac, .literal ['a'], .literal ['c']]) ∧
    ((firstOf ab [u, ac]).call run ['a', 'c']).outcome = .failed (.unbound ['u']) ∧
    ((firstOf ab [ac, .literal ['d']]).call run [' ', 'x']).outcome =
      .failed (.choice "a + b | a + c|d".toList [' ', 'x']) := by
  intro run ab ac u
  have rejects : ∀ x ∈ [ab], x.Rejects run ['a', 'c'] := by
    intro x hx
    cases List.mem_singleton.mp hx
    exact ⟨_, rfl, rfl⟩
  have reads : ac.Reads run ['a', 'c'] (.sequence []) [] := rfl
  have fails : u.Fails run ['a', 'c'] (.unbound ['u']) := rfl
  refine ⟨?_, ?_, ?_⟩
  · have decides : ¬ac.Rejects run ['a', 'c'] := fun ⟨e, he, _⟩ => by cases reads.symm.trans he
    obtain ⟨houtcome, hstarted⟩ := (firstOf_ordered RuleBook.empty 1 ['a', 'c'] ab [ac] u).1
      [ab] ac [u] rfl rejects decides
    exact ⟨houtcome, (congrArg (List.map Call.parser) hstarted).trans rfl⟩
  · refine ((firstOf_ordered RuleBook.empty 1 ['a', 'c'] ab [u] ac).1 [ab] u [ac] rfl
      rejects ?_).1
    rintro ⟨e, he, hrec⟩
    cases fails.symm.trans he
    cases hrec
  · refine ((firstOf_ordered RuleBook.empty 1 [' ', 'x'] ab [ac] (.literal ['d'])).2 ?_).1
    intro x hx
    simp only [List.cons_append, List.nil_append, List.mem_cons, List.not_mem_nil, or_false] at hx
    rcases hx with rfl | rfl | rfl
    · exact ⟨_, rfl, rfl⟩
    · exact ⟨_, rfl, rfl⟩
    · exact ⟨_, rfl, rfl⟩

end Parser

end Descent
