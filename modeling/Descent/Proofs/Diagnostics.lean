import Descent.Proofs.Rests
import Descent.Proofs.Stability
import Mathlib.Data.List.DropRight

/-!
# Where errors come from

An error that cites the text it was found at can be had again: some parser that is reached from the
one that failed fails with the very same error when it is run at the text cited, and that text is an
end of the input (`failure_reproduced`).  A rule without a definition cites no text; its name is that
of a rule that is reached.

Three cases carry the content.  A leaf skips blanks and cites the text behind them, where it has no
blanks to skip and fails as before.  A choice, a repetition with separators and a conversion cite
the text that they were run at, so nothing is to be done.  All other errors come from a part, which
was run at the same text, behind a match or behind a separator, and those are ends of the text.
-/

namespace Descent

variable {M : Type}

/-! ## Failing runs -/

namespace Run

theorem onMatch_eq_failed_iff {r : Run M} {k : Match M → Run M} {e : ParseError} :
    (r.onMatch k).outcome = .failed e ↔
      r.outcome = .failed e ∨ ∃ m, r.outcome = .matched m ∧ (k m).outcome = .failed e := by
  unfold onMatch
  cases h : r.outcome with
  | matched m => simp
  | failed e' => simp [h]
  | aborted a => simp [h]
  | unfinished => simp [h]

theorem failed_of_onMismatch {r : Run M} {k : ParseError → Run M} {e : ParseError}
    (h : (r.onMismatch k).outcome = .failed e) :
    r.outcome = .failed e ∨ ∃ e', (k e').outcome = .failed e := by
  unfold onMismatch at h
  split at h
  next e' he' =>
    split at h
    · exact Or.inr ⟨e', h⟩
    · exact Or.inl h
  next => exact Or.inl h

/-- A repetition that fails does so because an element has, at a text of which `I` holds if it holds
of the first rest, where elements may start, and of what matching elements leave. -/
theorem further_failed {element : Text → Run M} {next : Text → Option Text} {I : Text → Prop}
    (hnext : ∀ {rest u}, I rest → next rest = some u → I u)
    (helement : ∀ {u m}, I u → (element u).outcome = .matched m → I m.rest) {e : ParseError} :
    ∀ {fuel : Nat} {items : List (Value M)} {before rest : Text}, I rest →
      (further element next fuel items before rest).outcome = .failed e →
        ∃ u, I u ∧ (element u).outcome = .failed e := by
  intro fuel
  induction fuel with
  | zero => exact fun _ h => nomatch h
  | succ fuel ih =>
      intro items before rest hI h
      rw [further] at h
      split at h
      next =>
        split at h
        next => cases h
        next u hu =>
          have hIu := hnext hI hu
          simp only at h
          split at h
          next m hm => exact ih (helement hIu hm) h
          next e' he' =>
            split at h
            next => cases h
            next => exact ⟨u, hIu, h⟩
          next => exact ⟨u, hIu, h⟩
      next => cases h

theorem repetition_failed {element : Text → Run M} {next : Text → Option Text} {I : Text → Prop}
    (hnext : ∀ {rest u}, I rest → next rest = some u → I u)
    (helement : ∀ {u m}, I u → (element u).outcome = .matched m → I m.rest) {t : Text} (ht : I t)
    {e : ParseError}
    (h : ((element t).onMatch fun m => repeatFrom element next t m).outcome = .failed e) :
    ∃ u, I u ∧ (element u).outcome = .failed e := by
  rcases onMatch_eq_failed_iff.mp h with h | ⟨m, hm, h⟩
  · exact ⟨t, ht, h⟩
  · exact further_failed hnext helement (helement ht hm) h

end Run

/-! ## Leaves behind blanks -/

namespace Text

theorem trimStart_trimStart (t : Text) : trimStart (trimStart t) = trimStart t :=
  List.dropWhile_idempotent _ _

end Text

namespace ParseError

/-- The text that the error cites as found, if it cites one. -/
def actual? : ParseError → Option Text
  | literal _ a | pattern _ a | choice _ a | repetition _ a | mapping _ a _ => some a
  | unbound _ => none

theorem actual_of_actual? {e : ParseError} {a : Text} (h : e.actual? = some a) : e.actual = a := by
  cases e with
  | unbound name => cases h
  | literal _ _ | pattern _ _ | choice _ _ | repetition _ _ | mapping _ _ _ =>
      exact Option.some.inj h

end ParseError

namespace Leaf

theorem literal_eq_error {word t : Text} {e : ParseError}
    (h : (literal word t : Except ParseError (Match M)) = .error e) :
    e.actual? = some (Text.trimStart t) ∧
      (literal word (Text.trimStart t) : Except ParseError (Match M)) = .error e := by
  refine ⟨?_, by rwa [literal, Text.trimStart_trimStart]⟩
  rw [literal] at h
  split at h
  next => cases h
  next =>
    cases h
    rfl

theorem pattern_eq_error {source t : Text} {regex : Regex} {e : ParseError}
    (h : (pattern source regex t : Except ParseError (Match M)) = .error e) :
    e.actual? = some (Text.trimStart t) ∧
      (pattern source regex (Text.trimStart t) : Except ParseError (Match M)) = .error e := by
  refine ⟨?_, by rwa [pattern, Text.trimStart_trimStart]⟩
  rw [pattern] at h
  split at h
  next => cases h
  next =>
    cases h
    rfl

end Leaf

theorem Outcome.ofExcept_eq_failed_iff {x : Except ParseError (Match M)} {e : ParseError} :
    ofExcept x = .failed e ↔ x = .error e := by
  cases x <;> simp [ofExcept]

/-! ## Errors that can be had again -/

namespace RuleBook

/-- Custom leaves leave an end of their text, and their errors cite the text. -/
structure LeavesReport (b : RuleBook M) (p : Parser M) : Prop where
  rest : ∀ x f, b.Reaches p (.custom x f) → ∀ t m, f t = .ok m → m.rest <:+ t
  actual : ∀ x f, b.Reaches p (.custom x f) → ∀ t e, f t = .error e → e.actual? = some t

/-- The error names a rule that is reached and has no definition, or it cites an end of the text at
which a parser that is reached fails with it. -/
inductive Reproduced (b : RuleBook M) (fuel : Nat) (p : Parser M) (t : Text) :
    ParseError → Prop where
  | unbound {r} : b.Reaches p (.rule r) → b.definition? r = none →
      Reproduced b fuel p t (.unbound r.name)
  | at {e a q n} : e.actual? = some a → a <:+ t → b.Reaches p q → n ≤ fuel →
      (q.body (b.resolve n) a).outcome = .failed e → Reproduced b fuel p t e

variable {b : RuleBook M} {p q : Parser M} {fuel : Nat} {t u : Text} {e : ParseError}

theorem Reproduced.mono {fuel' : Nat} (h : b.Reproduced fuel p u e) (hfuel : fuel ≤ fuel')
    (hu : u <:+ t) : b.Reproduced fuel' p t e := by
  cases h with
  | unbound hr hd => exact .unbound hr hd
  | «at» hactual ha hq hn hfail => exact .at hactual (ha.trans hu) hq (hn.trans hfuel) hfail

/-- An error that cites the text it was found at. -/
theorem Reproduced.here (hq : b.Reaches p q) (hactual : e.actual? = some t)
    (h : (q.body (b.resolve fuel) t).outcome = .failed e) : b.Reproduced fuel p t e :=
  .at hactual (List.suffix_refl t) hq (Nat.le_refl fuel) h

/-- Errors of parsers that are reached can be had again, if those of rules can. -/
theorem body_reproduced (leaves : b.LeavesReport p)
    (rules : ∀ r t e, b.Reaches p (.rule r) → (b.resolve fuel r t).outcome = .failed e →
      b.Reproduced fuel p t e) :
    ∀ (q : Parser M) (t : Text) (e : ParseError), b.Reaches p q →
      (q.body (b.resolve fuel) t).outcome = .failed e → b.Reproduced fuel p t e
  | .literal word, t, e, hq, h => by
      obtain ⟨hactual, hagain⟩ := Leaf.literal_eq_error (Outcome.ofExcept_eq_failed_iff.mp h)
      exact .at hactual (Text.trimStart_suffix t) hq (Nat.le_refl fuel)
        (Outcome.ofExcept_eq_failed_iff.mpr hagain)
  | .pattern source regex, t, e, hq, h => by
      obtain ⟨hactual, hagain⟩ := Leaf.pattern_eq_error (Outcome.ofExcept_eq_failed_iff.mp h)
      exact .at hactual (Text.trimStart_suffix t) hq (Nat.le_refl fuel)
        (Outcome.ofExcept_eq_failed_iff.mpr hagain)
  | .custom x f, t, e, hq, h =>
      .here hq (leaves.actual x f hq t e (Outcome.ofExcept_eq_failed_iff.mp h)) h
  | .rule r, t, e, hq, h => rules r t e hq h
  | .seq q s, t, e, hq, h => by
      have hleft := hq.trans (.of_part .seqLeft)
      rcases Run.onMatch_eq_failed_iff.mp h with h | ⟨m, hm, h⟩
      · exact body_reproduced leaves rules q t e hleft h
      · rcases Run.onMatch_eq_failed_iff.mp h with h | ⟨n, -, h⟩
        · have hrest := call_leaves Trailing.suffix leaves.rest hleft fuel t m hm
          exact (body_reproduced leaves rules s m.rest e (hq.trans (.of_part .seqRight)) h).mono
            (Nat.le_refl fuel) hrest
        · cases h
  | .choice q s, t, e, hq, h => by
      have hown := h
      rcases Run.failed_of_onMismatch h with h | ⟨_, h⟩
      · exact body_reproduced leaves rules q t e (hq.trans (.of_part .choiceLeft)) h
      · rcases Run.failed_of_onMismatch h with h | ⟨_, h⟩
        · exact body_reproduced leaves rules s t e (hq.trans (.of_part .choiceRight)) h
        · cases h
          exact .here hq rfl hown
  | .map q f, t, e, hq, h => by
      rcases Run.onMatch_eq_failed_iff.mp h with h | ⟨m, -, h⟩
      · exact body_reproduced leaves rules q t e (hq.trans (.of_part .map)) h
      · split at h
        · cases h
        · cases h
  | .tryMap q f, t, e, hq, h => by
      have hown := h
      rcases Run.onMatch_eq_failed_iff.mp h with h | ⟨m, -, h⟩
      · exact body_reproduced leaves rules q t e (hq.trans (.of_part .tryMap)) h
      · split at h
        · cases h
        · cases h
          exact .here hq rfl hown
        · cases h
  | .optional q, t, e, hq, h => by
      rcases Run.failed_of_onMismatch h with h | ⟨_, h⟩
      · exact body_reproduced leaves rules q t e (hq.trans (.of_part .optional)) h
      · cases h
  | .many q, t, e, hq, h => by
      have hpart := hq.trans (.of_part .many)
      obtain ⟨u, hu, h⟩ := Run.repetition_failed (I := fun u => u <:+ t)
        (fun hrest hnext => Option.some.inj hnext ▸ hrest)
        (fun hu hm => (call_leaves Trailing.suffix leaves.rest hpart fuel _ _ hm).trans hu)
        (List.suffix_refl t) h
      exact (body_reproduced leaves rules q u e hpart h).mono (Nat.le_refl fuel) hu
  | .sepBy q sep, t, e, hq, h => by
      have hown := h
      rcases Run.failed_of_onMismatch h with h | ⟨_, h⟩
      · have hpart := hq.trans (.of_part .sepBy)
        obtain ⟨u, hu, h⟩ := Run.repetition_failed (I := fun u => u <:+ t)
          (fun hrest hnext => (Parser.suffix_of_elementAfter? hnext).trans hrest)
          (fun hu hm => (call_leaves Trailing.suffix leaves.rest hpart fuel _ _ hm).trans hu)
          (List.suffix_refl t) h
        exact (body_reproduced leaves rules q u e hpart h).mono (Nat.le_refl fuel) hu
      · cases h
        exact .here hq rfl hown
  | .named q _, t, e, hq, h => body_reproduced leaves rules q t e (hq.trans (.of_part .named)) h

theorem resolve_reproduced (leaves : b.LeavesReport p) :
    ∀ (fuel : Nat) (r : Rule) (t : Text) (e : ParseError), b.Reaches p (.rule r) →
      (b.resolve fuel r t).outcome = .failed e → b.Reproduced fuel p t e
  | 0, _, _, _, _, h => nomatch h
  | fuel + 1, r, t, e, hr, h => by
      rw [resolve] at h
      cases hd : b.definition? r with
      | none =>
          rw [hd] at h
          cases h
          exact .unbound hr hd
      | some d =>
          rw [hd] at h
          exact (body_reproduced leaves (resolve_reproduced leaves fuel) d t e
            (hr.trans (.of_definition hd)) h).mono (Nat.le_succ fuel) (List.suffix_refl t)

end RuleBook

/-- Where a parser matches, it leaves an end of the text.  Where it fails with an error that cites a
text, that text is an end of the text too, and a parser that is reached fails with the same error
when it is run there.  Where it fails because a rule has no definition, such a rule of that name is
reached. -/
theorem failure_reproduced {b : RuleBook M} {p : Parser M} (leaves : b.LeavesReport p) (n : Nat)
    (t : Text) :
    (∀ m, (p.call (b.resolve n) t).outcome = .matched m → m.rest <:+ t) ∧
    (∀ e, (p.call (b.resolve n) t).outcome = .failed e → (∀ name, e ≠ .unbound name) →
      e.actual <:+ t ∧
        ∃ q, b.Reaches p q ∧ (q.call (b.resolve n) e.actual).outcome = .failed e) ∧
    ∀ name, (p.call (b.resolve n) t).outcome = .failed (.unbound name) →
      ∃ r, r.name = name ∧ b.Reaches p (.rule r) ∧ b.definition? r = none := by
  have reproduced : ∀ e, (p.call (b.resolve n) t).outcome = .failed e → b.Reproduced n p t e :=
    fun e => RuleBook.body_reproduced leaves (RuleBook.resolve_reproduced leaves n) p t e (.refl p)
  refine ⟨RuleBook.call_leaves Trailing.suffix leaves.rest (.refl p) n t, fun e he hcites => ?_,
    fun name he => ?_⟩
  · cases reproduced e he with
    | unbound _ _ => exact absurd rfl (hcites _)
    | @«at» _ a q k hactual ha hq hk hfail =>
        obtain rfl := ParseError.actual_of_actual? hactual
        refine ⟨ha, q, hq, ?_⟩
        -- it has failed with less fuel, and so it fails with more
        have again : (q.call (b.resolve k) e.actual).outcome = .failed e := hfail
        rw [RuleBook.call_eq_of_le hk (by rw [again]; exact nofun)]
        exact again
  · generalize he' : ParseError.unbound name = e at he
    cases reproduced e he with
    | unbound hr hd =>
        cases he'
        exact ⟨_, rfl, hr, hd⟩
    | «at» hactual _ _ _ _ =>
        cases he'
        cases hactual

/-- An `a`, then a `b`, which a rule stands for, or any three characters. -/
def ruleOrThree : Parser Unit :=
  .seq (.literal ['a']) (.choice (.rule ⟨0, ['r']⟩) (.custom ['.'] (Leaf.take ['.'] 3 .token)))

/-- Behind the `a` of `a x` neither alternative matches.  The error cites the blank, which the rule
has skipped and the custom leaf has not, and it can be had again from the blank on. -/
theorem failure_reproduced_choice :
    let b : RuleBook Unit := ⟨1, [(⟨0, ['r']⟩, .literal ['b'])]⟩
    let e : ParseError := .choice ['r', '|', '.'] [' ', 'x']
    b.LeavesReport ruleOrThree ∧ b.parse ruleOrThree ['a', ' ', 'x'] = .failed e ∧
      e.actual <:+ ['a', ' ', 'x'] ∧ ∃ q n, b.Reaches ruleOrThree q ∧
        (q.call (b.resolve n) e.actual).outcome = .failed e := by
  intro b e
  have leaf : ∀ x f, b.Reaches ruleOrThree (.custom x f) → f = Leaf.take ['.'] 3 .token := by
    intro x f h
    exact h.of_parts (P := fun q => ∀ x f, q = .custom x f → f = Leaf.take ['.'] 3 .token)
      (by simp [ruleOrThree, Parser.parts]) (by simp [b, Parser.parts]) x f rfl
  have leaves : b.LeavesReport ruleOrThree := by
    constructor
    · intro x f h t m hm
      rw [leaf x f h, Leaf.take] at hm
      split at hm
      · cases hm
        exact List.drop_suffix 3 t
      · cases hm
    · intro x f h t e' he'
      rw [leaf x f h, Leaf.take] at he'
      split at he'
      · cases he'
      · cases he'
        rfl
  have fails : b.parse ruleOrThree ['a', ' ', 'x'] = .failed e := rfl
  obtain ⟨-, again, -⟩ := failure_reproduced leaves (b.parseFuel ['a', ' ', 'x']) ['a', ' ', 'x']
  obtain ⟨hsuffix, q, hq, hfail⟩ := again e fails fun _ => ParseError.noConfusion
  exact ⟨leaves, fails, hsuffix, q, _, hq, hfail⟩

end Descent
