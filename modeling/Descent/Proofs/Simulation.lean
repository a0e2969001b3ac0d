import Descent.Proofs.Stability
import Mathlib.Data.List.Forall2
import Mathlib.Order.Filter.AtTopBot.Basic

/-!
# Simulation

Parsers are rewritten by *laws*, at any number of places and also in the definitions of rules.  Does
a rewritten parser do what the parser did?  A rewritten rule may need more fuel than the rule, or
less, and errors may cite other descriptions.  So a *tolerance* says which errors are taken for the
same, and one parser *simulates* another when every run of the other that ends is matched by the
runs of the first as soon as their fuel suffices.  Since that is said of all greater fuels, the runs
of the parts are put together without any talk of how much fuel each of them needs.

Every combinator keeps simulation, because it looks at the outcomes of its parts only to see whether
they are matches, mismatches or something else (`Simulates.seq` and its siblings).  Where every law
is simulated, rewriting is simulated in recursive rules too (`RuleBook.simulates_of_rewritten`).
-/

namespace Descent

variable {M : Type}

/-! ## Outcomes behind outcomes -/

namespace Outcome

/-- Goes on where the outcome is a match. -/
def andThen (o : Outcome M) (k : Match M → Outcome M) : Outcome M :=
  match o with
  | matched m => k m
  | o => o

/-- The second outcome where the first is a mismatch. -/
def orElse (o o' : Outcome M) : Outcome M :=
  match o with
  | failed e => if e.isRecoverable then o' else failed e
  | o => o

theorem andThen_failed (e : ParseError) (k : Match M → Outcome M) :
    (failed e).andThen k = failed e := rfl

theorem orElse_failed (e : ParseError) (o : Outcome M) :
    (failed e).orElse o = if e.isRecoverable then o else failed e := rfl

end Outcome

namespace Run

theorem outcome_onMatch (r : Run M) (k : Match M → Run M) :
    (r.onMatch k).outcome = r.outcome.andThen fun m => (k m).outcome := by
  unfold onMatch
  cases h : r.outcome with
  | matched m => rfl
  | failed e => exact h
  | aborted a => exact h
  | unfinished => exact h

theorem outcome_onMismatch (r s : Run M) :
    (r.onMismatch fun _ => s).outcome = r.outcome.orElse s.outcome := by
  unfold onMismatch
  cases h : r.outcome with
  | matched m => exact h
  | failed e =>
      simp only [Outcome.orElse_failed]
      split
      · rfl
      · exact h
  | aborted a => exact h
  | unfinished => exact h

end Run

/-! ## Tolerances -/

/-- Which errors are taken for the same. -/
structure Tolerance where
  /-- The errors are taken for the same. -/
  errors : ParseError → ParseError → Prop
  /-- Descriptions of what was expected have to be the same. -/
  strict : Prop
  equivalence : Equivalence errors
  isRecoverable_eq : ∀ {e e'}, errors e e' → e.isRecoverable = e'.isRecoverable
  choice : ∀ {x x' : Text}, (strict → x = x') → ∀ t, errors (.choice x t) (.choice x' t)
  repetition : ∀ {x x' : Text}, (strict → x = x') → ∀ t, errors (.repetition x t) (.repetition x' t)
  mapping : ∀ {x x' : Text}, (strict → x = x') → ∀ t reason,
    errors (.mapping x t reason) (.mapping x' t reason)

namespace Tolerance

/-- Outcomes that differ at most in errors that are taken for the same. -/
inductive Agrees (T : Tolerance) : Outcome M → Outcome M → Prop where
  | matched (m) : Agrees T (.matched m) (.matched m)
  | failed {e e'} : T.errors e e' → Agrees T (.failed e) (.failed e')
  | aborted (a) : Agrees T (.aborted a) (.aborted a)
  | unfinished : Agrees T .unfinished .unfinished

/-- With fuel enough the first outcomes agree with the second, if that is one. -/
def Covers (T : Tolerance) (o : Nat → Outcome M) (o' : Outcome M) : Prop :=
  o' ≠ .unfinished → ∀ᶠ n in Filter.atTop, T.Agrees (o n) o'

variable {T : Tolerance}

namespace Agrees

variable {o o' o'' s s' : Outcome M}

theorem refl (T : Tolerance) : ∀ o : Outcome M, T.Agrees o o
  | .matched m => .matched m
  | .failed e => .failed (T.equivalence.refl e)
  | .aborted a => .aborted a
  | .unfinished => .unfinished

theorem symm (h : T.Agrees o o') : T.Agrees o' o := by
  cases h with
  | matched m => exact .matched m
  | failed he => exact .failed (T.equivalence.symm he)
  | aborted a => exact .aborted a
  | unfinished => exact .unfinished

theorem trans (h : T.Agrees o o') (h' : T.Agrees o' o'') : T.Agrees o o'' := by
  cases h with
  | matched m => exact h'
  | aborted a => exact h'
  | unfinished => exact h'
  | failed he =>
      cases h' with
      | failed he' => exact .failed (T.equivalence.trans he he')

/-- Running out of fuel is no error, so no tolerance takes it for one. -/
theorem ne_unfinished (h : T.Agrees o o') (hfin : o' ≠ .unfinished) : o ≠ .unfinished := by
  rintro rfl
  cases h
  exact hfin rfl

theorem andThen {k k' : Match M → Outcome M} (h : T.Agrees o o')
    (hk : ∀ m, o' = .matched m → T.Agrees (k m) (k' m)) :
    T.Agrees (o.andThen k) (o'.andThen k') := by
  cases h with
  | matched m => exact hk m rfl
  | failed he => exact .failed he
  | aborted a => exact .aborted a
  | unfinished => exact .unfinished

theorem orElse (h : T.Agrees o o')
    (hs : ∀ e, o' = .failed e → e.isRecoverable = true → T.Agrees s s') :
    T.Agrees (o.orElse s) (o'.orElse s') := by
  cases h with
  | matched m => exact .matched m
  | failed he =>
      rw [Outcome.orElse_failed, Outcome.orElse_failed, T.isRecoverable_eq he]
      split
      next hrec => exact hs _ rfl hrec
      next => exact .failed he
  | aborted a => exact .aborted a
  | unfinished => exact .unfinished

end Agrees

/-! ## Runs that are covered -/

namespace Covers

variable {o : Nat → Outcome M} {o' o'' : Outcome M}

/-- Where the fuel makes no difference, any is enough. -/
theorem of_agrees (h : ∀ n, T.Agrees (o n) o') : T.Covers o o' := fun _ => .of_forall h

/-- Nothing is asked where fuel runs out. -/
theorem of_unfinished (h : o' = .unfinished) : T.Covers o o' := fun hfin => absurd h hfin

/-- The second outcome may be replaced by one that it agrees with. -/
theorem trans_agrees (h : T.Covers o o') (h' : T.Agrees o' o'') : T.Covers o o'' := fun hfin =>
  (h (h'.ne_unfinished hfin)).mono fun _ hn => hn.trans h'

/-- It does not matter where fuel is counted from. -/
theorem of_succ (h : T.Covers (fun n => o (n + 1)) o') : T.Covers o o' := fun hfin => by
  have hmap := h hfin
  rwa [← Filter.eventually_map (m := fun n => n + 1) (P := fun n => T.Agrees (o n) o'),
    Filter.map_add_atTop_eq_nat] at hmap

theorem andThen {k : Nat → Match M → Outcome M} {k' : Match M → Outcome M} (h : T.Covers o o')
    (hk : ∀ m, T.Covers (fun n => k n m) (k' m)) :
    T.Covers (fun n => (o n).andThen (k n)) (o'.andThen k') := by
  intro hfin
  cases o' with
  | matched m =>
      filter_upwards [h nofun, hk m hfin] with n hn hkn
      refine hn.andThen fun m' hm' => ?_
      cases hm'
      exact hkn
  | failed e => filter_upwards [h nofun] with n hn using hn.andThen nofun
  | aborted a => filter_upwards [h nofun] with n hn using hn.andThen nofun
  | unfinished => exact absurd rfl hfin

theorem orElse {s : Nat → Outcome M} {s' : Outcome M} (h : T.Covers o o') (hs : T.Covers s s') :
    T.Covers (fun n => (o n).orElse (s n)) (o'.orElse s') := by
  intro hfin
  cases o' with
  | matched m => filter_upwards [h nofun] with n hn using hn.orElse nofun
  | failed e =>
      by_cases hrec : e.isRecoverable = true
      · rw [Outcome.orElse_failed, if_pos hrec] at hfin
        filter_upwards [h nofun, hs hfin] with n hn hsn using hn.orElse fun _ _ _ => hsn
      · filter_upwards [h nofun] with n hn
        refine hn.orElse fun e' he' hrec' => ?_
        cases he'
        exact absurd hrec' hrec
  | aborted a => filter_upwards [h nofun] with n hn using hn.orElse nofun
  | unfinished => exact absurd rfl hfin

/-- The rounds of a repetition are covered if every element is. -/
theorem further {element : Nat → Text → Run M} {element' : Text → Run M}
    (he : ∀ u, T.Covers (fun n => (element n u).outcome) (element' u).outcome)
    (next : Text → Option Text) (rounds : Nat) :
    ∀ (items : List (Value M)) (before rest : Text),
      T.Covers (fun n => (Run.further (element n) next rounds items before rest).outcome)
        (Run.further element' next rounds items before rest).outcome := by
  induction rounds with
  | zero => exact fun _ _ _ => .of_agrees fun _ => .refl T _
  | succ rounds ih =>
      intro items before rest
      by_cases hgo : Text.size rest < Text.size before ∧ rest ≠ []
      · cases hu : next rest with
        | none =>
            simp only [Run.further, if_pos hgo, hu]
            exact .of_agrees fun _ => .refl T _
        | some u =>
            simp only [Run.further, if_pos hgo, hu]
            intro hfin
            have finished : (element' u).outcome ≠ .unfinished := by
              intro ho
              simp only [ho] at hfin
              exact hfin rfl
            cases ho : (element' u).outcome with
            | matched m =>
                simp only [ho, Run.outcome_after] at hfin ⊢
                filter_upwards [he u finished, ih _ _ _ hfin] with n hn hrest
                rw [ho] at hn
                generalize hx : (element n u).outcome = x at hn
                cases hn
                simpa only [hx, Run.outcome_after] using hrest
            | failed e =>
                filter_upwards [he u finished] with n hn
                rw [ho] at hn
                generalize hx : (element n u).outcome = x at hn
                cases hn with
                | failed hsame =>
                    simp only [T.isRecoverable_eq hsame]
                    split
                    · exact .matched _
                    · rw [hx, ho]
                      exact .failed hsame
            | aborted a =>
                filter_upwards [he u finished] with n hn
                rw [ho] at hn
                generalize hx : (element n u).outcome = x at hn
                cases hn
                simp only [hx, ho]
                exact .aborted a
            | unfinished => exact absurd ho finished
      · simp only [Run.further, if_neg hgo]
        exact .of_agrees fun _ => .refl T _

end Covers

/-! ## Parsers that simulate others -/

/-- The first parser does what the second does when its rules are run with fuel enough. -/
structure Simulates (T : Tolerance) (run : Nat → Rule → Text → Run M) (run' : Rule → Text → Run M)
    (p p' : Parser M) : Prop where
  expected_eq : T.strict → p.expected = p'.expected
  covers : ∀ t, T.Covers (fun n => (p.body (run n) t).outcome) (p'.body run' t).outcome

namespace Simulates

variable {run : Nat → Rule → Text → Run M} {run' : Rule → Text → Run M} {p p' q q' : Parser M}

theorem seq (hp : T.Simulates run run' p p') (hq : T.Simulates run run' q q') :
    T.Simulates run run' (.seq p q) (.seq p' q') where
  expected_eq h := by rw [Parser.expected, Parser.expected, hp.expected_eq h, hq.expected_eq h]
  covers t := by
    simp only [Parser.body, Run.outcome_onMatch, Run.outcome_asCall]
    exact (hp.covers t).andThen fun m => (hq.covers m.rest).andThen fun n =>
      .of_agrees fun _ => .refl T _

theorem choice (hp : T.Simulates run run' p p') (hq : T.Simulates run run' q q') :
    T.Simulates run run' (.choice p q) (.choice p' q') where
  expected_eq h := by rw [Parser.expected, Parser.expected, hp.expected_eq h, hq.expected_eq h]
  covers t := by
    simp only [Parser.body, Run.outcome_onMismatch, Run.outcome_asCall]
    refine (hp.covers t).orElse ((hq.covers t).orElse (.of_agrees fun _ => .failed ?_))
    exact T.choice (fun h => by rw [hp.expected_eq h, hq.expected_eq h]) t

theorem map (hp : T.Simulates run run' p p') (f : Value M → Except Abort (Value M)) :
    T.Simulates run run' (.map p f) (.map p' f) where
  expected_eq := hp.expected_eq
  covers t := by
    simp only [Parser.body, Run.outcome_onMatch, Run.outcome_asCall]
    exact (hp.covers t).andThen fun m => .of_agrees fun _ => .refl T _

theorem tryMap (hp : T.Simulates run run' p p') (f : Value M → Except Refusal (Value M)) :
    T.Simulates run run' (.tryMap p f) (.tryMap p' f) where
  expected_eq := hp.expected_eq
  covers t := by
    simp only [Parser.body, Run.outcome_onMatch, Run.outcome_asCall]
    refine (hp.covers t).andThen fun m => .of_agrees fun _ => ?_
    split
    · exact .refl T _
    · exact .failed (T.mapping hp.expected_eq t _)
    · exact .refl T _

theorem optional (hp : T.Simulates run run' p p') :
    T.Simulates run run' (.optional p) (.optional p') where
  expected_eq h := by rw [Parser.expected, Parser.expected, hp.expected_eq h]
  covers t := by
    simp only [Parser.body, Run.outcome_onMismatch, Run.outcome_asCall]
    exact (hp.covers t).orElse (.of_agrees fun _ => .refl T _)

/-- The bound of a repetition is the size of its text, which is the same on both sides. -/
theorem repetition (hp : T.Simulates run run' p p') (next : Text → Option Text) (t : Text) :
    T.Covers
      (fun n => (((p.body (run n) t).asCall p t).onMatch fun m =>
        .repeatFrom (fun u => (p.body (run n) u).asCall p u) next t m).outcome)
      (((p'.body run' t).asCall p' t).onMatch fun m =>
        .repeatFrom (fun u => (p'.body run' u).asCall p' u) next t m).outcome := by
  have element : ∀ u, T.Covers (fun n => ((p.body (run n) u).asCall p u).outcome)
      ((p'.body run' u).asCall p' u).outcome := hp.covers
  simp only [Run.outcome_onMatch, Run.outcome_asCall]
  exact (hp.covers t).andThen fun m => .further element next _ _ _ _

theorem many (hp : T.Simulates run run' p p') : T.Simulates run run' (.many p) (.many p') where
  expected_eq h := by rw [Parser.expected, Parser.expected, hp.expected_eq h]
  covers := hp.repetition some

theorem sepBy (hp : T.Simulates run run' p p') (sep : Text) :
    T.Simulates run run' (.sepBy p sep) (.sepBy p' sep) where
  expected_eq h := by rw [Parser.expected, Parser.expected, hp.expected_eq h]
  covers t := by
    simp only [Parser.body, Run.outcome_onMismatch]
    refine (hp.repetition (Parser.elementAfter? sep) t).orElse (.of_agrees fun _ => .failed ?_)
    exact T.repetition hp.expected_eq t

theorem named (hp : T.Simulates run run' p p') (name : Text) :
    T.Simulates run run' (.named p name) (.named p' name) where
  expected_eq := hp.expected_eq
  covers := hp.covers

/-- Every parser simulates itself if rules do. -/
theorem refl (rules : ∀ r t, T.Covers (fun n => (run n r t).outcome) (run' r t).outcome) :
    ∀ p : Parser M, T.Simulates run run' p p
  | .literal _ => ⟨fun _ => rfl, fun _ => .of_agrees fun _ => .refl T _⟩
  | .pattern _ _ => ⟨fun _ => rfl, fun _ => .of_agrees fun _ => .refl T _⟩
  | .custom _ _ => ⟨fun _ => rfl, fun _ => .of_agrees fun _ => .refl T _⟩
  | .rule r => ⟨fun _ => rfl, rules r⟩
  | .seq p q => (refl rules p).seq (refl rules q)
  | .choice p q => (refl rules p).choice (refl rules q)
  | .map p f => (refl rules p).map f
  | .tryMap p f => (refl rules p).tryMap f
  | .optional p => (refl rules p).optional
  | .many p => (refl rules p).many
  | .sepBy p sep => (refl rules p).sepBy sep
  | .named p name => (refl rules p).named name

end Simulates

end Tolerance

/-! ## Rewriting -/

/-- The second parser is the first with parts replaced at any number of places, each according to a
law. -/
inductive Parser.Rewritten (L : Parser M → Parser M → Prop) : Parser M → Parser M → Prop where
  | law {p q} : L p q → Rewritten L p q
  | refl (p) : Rewritten L p p
  | seq {p p' q q'} : Rewritten L p p' → Rewritten L q q' → Rewritten L (.seq p q) (.seq p' q')
  | choice {p p' q q'} :
      Rewritten L p p' → Rewritten L q q' → Rewritten L (.choice p q) (.choice p' q')
  | map {p p'} (f) : Rewritten L p p' → Rewritten L (.map p f) (.map p' f)
  | tryMap {p p'} (f) : Rewritten L p p' → Rewritten L (.tryMap p f) (.tryMap p' f)
  | optional {p p'} : Rewritten L p p' → Rewritten L (.optional p) (.optional p')
  | many {p p'} : Rewritten L p p' → Rewritten L (.many p) (.many p')
  | sepBy {p p'} (sep) : Rewritten L p p' → Rewritten L (.sepBy p sep) (.sepBy p' sep)
  | named {p p'} (name) : Rewritten L p p' → Rewritten L (.named p name) (.named p' name)

namespace Tolerance

variable {T : Tolerance} {L : Parser M → Parser M → Prop}

/-- A parser simulates what it is rewritten into if it does where a law replaces it as a whole. -/
theorem Simulates.of_rewritten {run : Nat → Rule → Text → Run M} {run' : Rule → Text → Run M}
    (self : ∀ p : Parser M, T.Simulates run run' p p)
    (laws : ∀ p q, L p q → T.Simulates run run' p q) {p q : Parser M}
    (h : Parser.Rewritten L p q) : T.Simulates run run' p q := by
  induction h with
  | law h => exact laws _ _ h
  | refl p => exact self p
  | seq _ _ ihp ihq => exact ihp.seq ihq
  | choice _ _ ihp ihq => exact ihp.choice ihq
  | map f _ ih => exact ih.map f
  | tryMap f _ ih => exact ih.tryMap f
  | optional _ ih => exact ih.optional
  | many _ ih => exact ih.many
  | sepBy sep _ ih => exact ih.sepBy sep
  | named name _ ih => exact ih.named name

end Tolerance

namespace RuleBook

variable {T : Tolerance} {L : Parser M → Parser M → Prop} {b b' : RuleBook M}

/-- The second book defines the rules that the first does, by rewritten definitions. -/
def Rewritten (L : Parser M → Parser M → Prop) (b b' : RuleBook M) : Prop :=
  ∀ r, Option.Rel (Parser.Rewritten L) (b.definition? r) (b'.definition? r)

namespace Rewritten

theorem refl (b : RuleBook M) : Rewritten L b b := by
  intro r
  cases b.definition? r with
  | none => exact .none
  | some d => exact .some (.refl d)

/-- Books that define the same rules in the same order are rewritten where their definitions are. -/
theorem of_definitions
    (h : List.Forall₂ (fun d d' => d.1 = d'.1 ∧ Parser.Rewritten L d.2 d'.2) b.definitions
      b'.definitions) : Rewritten L b b' := by
  intro r
  unfold definition?
  generalize b.definitions = ds at h
  generalize b'.definitions = ds' at h
  induction h with
  | nil => exact .none
  | @cons d d' _ _ hd _ ih =>
      obtain ⟨hrule, hdef⟩ := hd
      rw [List.find?_cons, List.find?_cons, ← hrule]
      cases d.1 == r with
      | true => exact .some hdef
      | false => exact ih

end Rewritten

/-- Where rules are run by the first book, a parser simulates what it is rewritten into where they
are run by the second, if all laws are simulated.  A law may count on parsers that simulate
themselves, and on those that simulate a rule because they are rewritten into its definition. -/
theorem simulates_of_rewritten (hb : Rewritten L b b')
    (laws : ∀ run' : Rule → Text → Run M, (∀ p, T.Simulates b.resolve run' p p) →
      (∀ p d r, Parser.Rewritten L p d → b'.definition? r = some d →
        ∀ t, T.Covers (fun n => (p.body (b.resolve n) t).outcome) (run' r t).outcome) →
      ∀ p q, L p q → T.Simulates b.resolve run' p q) :
    ∀ (n : Nat) {p q : Parser M}, Parser.Rewritten L p q →
      T.Simulates b.resolve (b'.resolve n) p q := by
  -- a rule with fuel `n + 1` is its definition with fuel `n`, which the hypothesis speaks of
  intro n
  induction n with
  | zero =>
      intro p q h
      have self : ∀ s : Parser M, T.Simulates b.resolve (b'.resolve 0) s s :=
        .refl fun _ _ => .of_unfinished rfl
      exact .of_rewritten self (laws _ self fun _ _ _ _ _ _ => .of_unfinished rfl) h
  | succ n ih =>
      intro p q h
      have defined : ∀ s d r, Parser.Rewritten L s d → b'.definition? r = some d →
          ∀ t, T.Covers (fun n => (s.body (b.resolve n) t).outcome)
            (b'.resolve (n + 1) r t).outcome := by
        intro s d r hs hd t
        rw [resolve, hd]
        exact (ih hs).covers t
      have self : ∀ s : Parser M, T.Simulates b.resolve (b'.resolve (n + 1)) s s := by
        refine .refl fun r t => .of_succ ?_
        simp only [resolve]
        have hr := hb r
        generalize b.definition? r = x at hr
        generalize b'.definition? r = y at hr
        cases hr with
        | some hd => exact (ih hd).covers t
        | none => exact .of_agrees fun _ => .refl T _
      exact .of_rewritten self (laws _ self defined) h

theorem eventually_call_eq {p : Parser M} {t : Text} {n : Nat}
    (h : (p.call (b.resolve n) t).outcome ≠ .unfinished) :
    ∀ᶠ m in Filter.atTop, p.call (b.resolve m) t = p.call (b.resolve n) t :=
  (Filter.eventually_ge_atTop n).mono fun _ hm => call_eq_of_le hm h

end RuleBook

namespace Tolerance

/-- Whenever the second parser comes to an outcome under its rules, the first does too under its
own, and the outcomes agree. -/
def Refines (T : Tolerance) (g g' : RuleBook M × Parser M) : Prop :=
  ∀ n t, T.Covers (fun m => (g.2.call (g.1.resolve m) t).outcome)
    (g'.2.call (g'.1.resolve n) t).outcome

namespace Refines

variable {T : Tolerance} {g g' g'' : RuleBook M × Parser M}

theorem refl (T : Tolerance) (g : RuleBook M × Parser M) : T.Refines g g := fun _ _ hfin =>
  (RuleBook.eventually_call_eq hfin).mono fun _ hm => hm ▸ .refl T _

theorem trans (h : T.Refines g g') (h' : T.Refines g' g'') : T.Refines g g'' := by
  intro n t hfin
  -- one fuel with which the parser between finishes is enough
  obtain ⟨m, hm⟩ := (h' n t hfin).exists
  exact (h m t (hm.ne_unfinished hfin)).mono fun _ hk => hk.trans hm

/-- The two outcomes agree whatever the fuels are with which they are come to. -/
theorem agrees (h : T.Refines g g') {n n' : Nat} {t : Text}
    (hfin : (g.2.call (g.1.resolve n) t).outcome ≠ .unfinished)
    (hfin' : (g'.2.call (g'.1.resolve n') t).outcome ≠ .unfinished) :
    T.Agrees (g.2.call (g.1.resolve n) t).outcome (g'.2.call (g'.1.resolve n') t).outcome := by
  obtain ⟨m, hm, hsame⟩ := ((h n' t hfin').and (RuleBook.eventually_call_eq hfin)).exists
  rw [← hsame]
  exact hm

end Refines

end Tolerance

end Descent
