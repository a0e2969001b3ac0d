import Descent.Proofs.Simulation
import Descent.Proofs.Walks

/-!
# Exact rewriting

Sequences may be regrouped, names may be put on, taken off or changed, and two conversions in a row
are one.  A grammar that is rewritten by these laws, in its parser and in the definitions of its
rules, step after step, cannot be told from what it was (`rewriting_exact`): every run comes to the
same outcome, errors with all that they cite included, every description is the same, and sealing
finds the same rules in the same order or complains of the same one.

The laws keep the depth of rules inside each other, so outcomes are compared at the same fuel.  A law
is first stated for parts that are run by the same rules (`ExactLaw.outcome_eq`); that the outcomes
are the same in recursive rules too comes from simulation in both directions.

Sealing goes by the order in which rules first occur.  `mergeRules` appends what is new of its second
list (`mergeRules_eq`), and so it does not matter how lists without repetitions are grouped.
-/

namespace Descent

variable {M : Type}

/-! ## Lists of rules -/

namespace Parser

theorem foldl_merge_eq {ss : List Rule} (h : ss.Nodup) : ∀ rs : List Rule,
    ss.foldl (fun rs s => if rs.contains s then rs else rs ++ [s]) rs =
      rs ++ ss.filter fun s => !rs.contains s := by
  induction ss with
  | nil => simp
  | cons s ss ih =>
      intro rs
      obtain ⟨hs, hss⟩ := List.nodup_cons.mp h
      rw [List.foldl_cons, ih hss]
      by_cases hmem : rs.contains s
      · rw [if_pos hmem, List.filter_cons_of_neg (by simpa using hmem)]
      · rw [if_neg hmem, List.filter_cons_of_pos (by simpa using hmem), List.append_assoc,
          List.singleton_append]
        congr 2
        refine List.filter_congr fun x hx => ?_
        have hne : x ≠ s := fun heq => hs (heq ▸ hx)
        simp [hne]

/-- Merging appends the rules of the second list that are not in the first. -/
theorem mergeRules_eq {rs ss : List Rule} (h : ss.Nodup) :
    mergeRules rs ss = rs ++ ss.filter fun s => !rs.contains s := by
  unfold mergeRules
  split
  · simp
  · simp
  · exact foldl_merge_eq h _

theorem nodup_mergeRules {rs ss : List Rule} (hrs : rs.Nodup) (hss : ss.Nodup) :
    (mergeRules rs ss).Nodup := by
  rw [mergeRules_eq hss]
  refine hrs.append (hss.filter _) fun x hx hx' => ?_
  simpa [hx] using List.of_mem_filter hx'

theorem mergeRules_assoc {rs ss us : List Rule} (hss : ss.Nodup) (hus : us.Nodup) :
    mergeRules (mergeRules rs ss) us = mergeRules rs (mergeRules ss us) := by
  rw [mergeRules_eq hus, mergeRules_eq hss, mergeRules_eq (nodup_mergeRules hss hus),
    mergeRules_eq hus, List.filter_append, List.filter_filter, List.append_assoc]
  congr 2
  refine List.filter_congr fun x _ => ?_
  by_cases hx : x ∈ rs
  · simp [hx]
  · simp [hx]

theorem nodup_rules : ∀ p : Parser M, p.rules.Nodup
  | literal _ => List.nodup_nil
  | pattern _ _ => List.nodup_nil
  | custom _ _ => List.nodup_nil
  | rule r => List.nodup_singleton r
  | seq p q => nodup_mergeRules p.nodup_rules q.nodup_rules
  | choice p q => nodup_mergeRules p.nodup_rules q.nodup_rules
  | map p _ => p.nodup_rules
  | tryMap p _ => p.nodup_rules
  | optional p => p.nodup_rules
  | many p => p.nodup_rules
  | sepBy p _ => p.nodup_rules
  | named p _ => p.nodup_rules

end Parser

/-! ## Laws -/

/-- The laws that leave no trace. -/
inductive ExactLaw : Parser M → Parser M → Prop where
  | groupRight {p q s} : ExactLaw (.seq (.seq p q) s) (.seq p (.seq q s))
  | groupLeft {p q s} : ExactLaw (.seq p (.seq q s)) (.seq (.seq p q) s)
  | name {p} (name) : ExactLaw p (.named p name)
  | unname {p name} : ExactLaw (.named p name) p
  | rename {p name} (name') : ExactLaw (.named p name) (.named p name')
  /-- Two conversions in a row are one. -/
  | fuse {p f g} : ExactLaw (.map (.map p f) g) (.map p fun v => f v >>= g)
  | split {p f g} : ExactLaw (.map p fun v => f v >>= g) (.map (.map p f) g)

namespace Outcome

theorem andThen_matched (m : Match M) (k : Match M → Outcome M) : (matched m).andThen k = k m := rfl

theorem andThen_andThen (o : Outcome M) (k k' : Match M → Outcome M) :
    (o.andThen k).andThen k' = o.andThen fun m => (k m).andThen k' := by
  cases o with
  | matched m => rfl
  | failed e => rfl
  | aborted a => rfl
  | unfinished => rfl

end Outcome

theorem Value.join_assoc (u v w : Value M) : (u.join v).join w = u.join (v.join w) := by
  rw [join_eq (u.join v), join_eq u (v.join w), solidItems_join, solidItems_join, List.append_assoc]

namespace Parser

variable (run : Rule → Text → Run M)

theorem outcome_seq_assoc (p q s : Parser M) (t : Text) :
    ((seq (seq p q) s).body run t).outcome = ((seq p (seq q s)).body run t).outcome := by
  simp only [body, Run.outcome_onMatch, Run.outcome_asCall, Run.outcome_pure,
    Outcome.andThen_andThen, Outcome.andThen_matched, Value.join_assoc]

theorem outcome_map_map (p : Parser M) (f g : Value M → Except Abort (Value M)) (t : Text) :
    ((map (map p f) g).body run t).outcome = ((map p fun v => f v >>= g).body run t).outcome := by
  simp only [body, Run.outcome_onMatch, Run.outcome_asCall, Outcome.andThen_andThen]
  congr 1
  funext m
  cases f m.output with
  | ok v => rfl
  | error a => rfl

end Parser

namespace ExactLaw

variable {p q : Parser M}

theorem symm (h : ExactLaw p q) : ExactLaw q p := by
  cases h with
  | groupRight => exact .groupLeft
  | groupLeft => exact .groupRight
  | name n => exact .unname
  | unname => exact .name _
  | rename n => exact .rename _
  | fuse => exact .split
  | split => exact .fuse

theorem expected_eq (h : ExactLaw p q) : p.expected = q.expected := by
  cases h with
  | groupRight => simp [Parser.expected]
  | groupLeft => simp [Parser.expected]
  | name n => rfl
  | unname => rfl
  | rename n => rfl
  | fuse => rfl
  | split => rfl

theorem rules_eq (h : ExactLaw p q) : p.rules = q.rules := by
  cases h with
  | groupRight => exact Parser.mergeRules_assoc (Parser.nodup_rules _) (Parser.nodup_rules _)
  | groupLeft => exact (Parser.mergeRules_assoc (Parser.nodup_rules _) (Parser.nodup_rules _)).symm
  | name n => rfl
  | unname => rfl
  | rename n => rfl
  | fuse => rfl
  | split => rfl

/-- Under the same rules both sides of a law come to the same outcome. -/
theorem outcome_eq (h : ExactLaw p q) (run : Rule → Text → Run M) (t : Text) :
    (p.body run t).outcome = (q.body run t).outcome := by
  cases h with
  | groupRight => exact Parser.outcome_seq_assoc run _ _ _ t
  | groupLeft => exact (Parser.outcome_seq_assoc run _ _ _ t).symm
  | name n => rfl
  | unname => rfl
  | rename n => rfl
  | fuse => exact Parser.outcome_map_map run _ _ _ t
  | split => exact (Parser.outcome_map_map run _ _ _ t).symm

end ExactLaw

/-! ## What rewriting keeps of a parser -/

namespace Parser.Rewritten

variable {L : Parser M → Parser M → Prop} {p q : Parser M}

theorem symm (hL : ∀ {p q}, L p q → L q p) (h : Rewritten L p q) : Rewritten L q p := by
  induction h with
  | law h => exact .law (hL h)
  | refl p => exact .refl p
  | seq _ _ ihp ihq => exact .seq ihp ihq
  | choice _ _ ihp ihq => exact .choice ihp ihq
  | map f _ ih => exact .map f ih
  | tryMap f _ ih => exact .tryMap f ih
  | optional _ ih => exact .optional ih
  | many _ ih => exact .many ih
  | sepBy sep _ ih => exact .sepBy sep ih
  | named name _ ih => exact .named name ih

theorem expected_eq (h : Rewritten ExactLaw p q) : p.expected = q.expected := by
  induction h with
  | law h => exact h.expected_eq
  | refl p => rfl
  | seq _ _ ihp ihq => rw [Parser.expected, Parser.expected, ihp, ihq]
  | choice _ _ ihp ihq => rw [Parser.expected, Parser.expected, ihp, ihq]
  | map f _ ih => exact ih
  | tryMap f _ ih => exact ih
  | optional _ ih => rw [Parser.expected, Parser.expected, ih]
  | many _ ih => rw [Parser.expected, Parser.expected, ih]
  | sepBy sep _ ih => rw [Parser.expected, Parser.expected, ih]
  | named name _ ih => exact ih

theorem rules_eq (h : Rewritten ExactLaw p q) : p.rules = q.rules := by
  induction h with
  | law h => exact h.rules_eq
  | refl p => rfl
  | seq _ _ ihp ihq => rw [Parser.rules, Parser.rules, ihp, ihq]
  | choice _ _ ihp ihq => rw [Parser.rules, Parser.rules, ihp, ihq]
  | map f _ ih => exact ih
  | tryMap f _ ih => exact ih
  | optional _ ih => exact ih
  | many _ ih => exact ih
  | sepBy sep _ ih => exact ih
  | named name _ ih => exact ih

end Parser.Rewritten

/-! ## Outcomes -/

/-- Errors are taken for the same only if they are. -/
def Tolerance.exact : Tolerance where
  errors := Eq
  strict := True
  equivalence := ⟨Eq.refl, Eq.symm, Eq.trans⟩
  isRecoverable_eq h := congrArg ParseError.isRecoverable h
  choice h t := congrArg (ParseError.choice · t) (h trivial)
  repetition h t := congrArg (ParseError.repetition · t) (h trivial)
  mapping h t reason := congrArg (ParseError.mapping · t reason) (h trivial)

namespace Tolerance

theorem Agrees.eq_of_exact {o o' : Outcome M} (h : exact.Agrees o o') : o = o' := by
  cases h with
  | matched m => rfl
  | failed he => exact congrArg Outcome.failed he
  | aborted a => rfl
  | unfinished => rfl

/-- Where the fuel stays the same there is nothing to wait for. -/
theorem Covers.eq_of_exact {o o' : Outcome M} (h : exact.Covers (fun _ => o) o')
    (finished : o' ≠ .unfinished) : o = o' :=
  (Filter.eventually_const.mp (h finished)).eq_of_exact

variable {run run' : Rule → Text → Run M}

/-- Rewriting is simulated without more fuel if rules are. -/
theorem Simulates.of_exactLaw
    (rules : ∀ r t, exact.Covers (fun _ => (run r t).outcome) (run' r t).outcome) {p q : Parser M}
    (h : Parser.Rewritten ExactLaw p q) : exact.Simulates (fun _ => run) run' p q := by
  have self : ∀ s : Parser M, exact.Simulates (fun _ => run) run' s s := .refl rules
  refine .of_rewritten self (fun s u hlaw => ⟨fun _ => hlaw.expected_eq, fun t => ?_⟩) h
  rw [← hlaw.outcome_eq run' t]
  exact (self s).covers t

end Tolerance

namespace RuleBook

variable {b b' : RuleBook M}

theorem Rewritten.symm {L : Parser M → Parser M → Prop} (hL : ∀ {p q}, L p q → L q p)
    (h : Rewritten L b b') : Rewritten L b' b := by
  intro r
  have hr := h r
  generalize b.definition? r = x at hr
  generalize b'.definition? r = y at hr
  cases hr with
  | some hd => exact .some (hd.symm hL)
  | none => exact .none

/-- A rule of the rewritten book does what the rule did, wherever that comes to an outcome. -/
theorem covers_resolve (h : Rewritten ExactLaw b b') : ∀ (n : Nat) (r : Rule) (t : Text),
    Tolerance.exact.Covers (fun _ => (b.resolve n r t).outcome) (b'.resolve n r t).outcome := by
  intro n
  induction n with
  | zero => exact fun r t => .of_unfinished rfl
  | succ n ih =>
      intro r t
      simp only [resolve]
      have hr := h r
      generalize b.definition? r = x at hr
      generalize b'.definition? r = y at hr
      cases hr with
      | some hd => exact (Tolerance.Simulates.of_exactLaw ih hd).covers t
      | none => exact .of_agrees fun _ => .refl _ _

/-- With the same fuel a rewritten parser comes to the same outcome under rewritten rules. -/
theorem outcome_eq_of_rewritten (hb : Rewritten ExactLaw b b') {p q : Parser M}
    (h : Parser.Rewritten ExactLaw p q) (n : Nat) (t : Text) :
    (q.call (b'.resolve n) t).outcome = (p.call (b.resolve n) t).outcome := by
  -- neither runs out of fuel where the other does not
  have forth := (Tolerance.Simulates.of_exactLaw (covers_resolve hb n) h).covers t
  have back := (Tolerance.Simulates.of_exactLaw (covers_resolve (hb.symm ExactLaw.symm) n)
    (h.symm ExactLaw.symm)).covers t
  rw [Parser.outcome_call, Parser.outcome_call]
  by_cases finished : (p.body (b.resolve n) t).outcome = .unfinished
  · by_cases finished' : (q.body (b'.resolve n) t).outcome = .unfinished
    · rw [finished, finished']
    · exact (forth.eq_of_exact finished').symm
  · exact back.eq_of_exact finished

/-! ## Sealing -/

/-- A walk asks of definitions only which rules they refer to. -/
theorem Walks.of_rules_eq {pending seen : List Rule} {found : Except GrammarError (List Rule)}
    (hb : ∀ r, (b'.definition? r).map Parser.rules = (b.definition? r).map Parser.rules)
    (h : b.Walks pending seen found) : b'.Walks pending seen found := by
  induction h with
  | finished => exact .finished
  | again hr _ ih => exact .again hr ih
  | @undefined r _ _ hr hd =>
      have hrules := hb r
      rw [hd] at hrules
      exact .undefined hr (Option.map_eq_none_iff.mp hrules)
  | @enter r d _ _ _ hr hd _ ih =>
      have hrules := hb r
      rw [hd] at hrules
      obtain ⟨d', hd', heq⟩ := Option.map_eq_some_iff.mp hrules
      exact .enter hr hd' (heq ▸ ih)

theorem map_rules_seal (b : RuleBook M) (p : Parser M) :
    (b.seal p).map Grammar.rules = b.reachable p := by
  rw [RuleBook.seal]
  cases b.reachable p with
  | ok rules => rfl
  | error e => rfl

theorem Rewritten.definition?_map_eq {α : Type} {f : Parser M → α}
    (hf : ∀ {p q}, Parser.Rewritten ExactLaw p q → f p = f q) (h : Rewritten ExactLaw b b')
    (r : Rule) : (b'.definition? r).map f = (b.definition? r).map f := by
  have hr := h r
  generalize b.definition? r = x at hr
  generalize b'.definition? r = y at hr
  cases hr with
  | some hd => exact congrArg some (hf hd).symm
  | none => rfl

theorem reachable_eq_of_rewritten (hb : Rewritten ExactLaw b b') {p q : Parser M}
    (h : Parser.Rewritten ExactLaw p q) : b'.reachable q = b.reachable p := by
  refine walks_iff.mp ?_
  rw [← h.rules_eq]
  exact (walks_reachable b p).of_rules_eq (hb.definition?_map_eq Parser.Rewritten.rules_eq)

end RuleBook

/-! ## Rewriting grammars -/

/-- The parser and the definitions of the rules are rewritten, at any number of places. -/
structure ExactStep (g g' : RuleBook M × Parser M) : Prop where
  parser : Parser.Rewritten ExactLaw g.2 g'.2
  book : RuleBook.Rewritten ExactLaw g.1 g'.1
  /-- No definition is added or taken away, not even one that is never looked up. -/
  length_eq : g'.1.definitions.length = g.1.definitions.length

/-- A grammar that has been rewritten step after step comes to the same outcomes at all texts and
with any fuel, keeps the descriptions of its parser and of its rules, and is sealed with the same
result. -/
theorem rewriting_exact {g g' : RuleBook M × Parser M} (h : Relation.ReflTransGen ExactStep g g') :
    (∀ n t, (g'.2.call (g'.1.resolve n) t).outcome = (g.2.call (g.1.resolve n) t).outcome) ∧
    (∀ t, g'.1.parse g'.2 t = g.1.parse g.2 t) ∧
    g'.2.expected = g.2.expected ∧
    (∀ r, (g'.1.definition? r).map Parser.expected = (g.1.definition? r).map Parser.expected) ∧
    (g'.1.seal g'.2).map Grammar.rules = (g.1.seal g.2).map Grammar.rules := by
  induction h with
  | refl => exact ⟨fun _ _ => rfl, fun _ => rfl, rfl, fun _ => rfl, rfl⟩
  | @tail g' g'' _ hstep ih =>
      obtain ⟨outcomes, parses, expected, definitions, seals⟩ := ih
      have same := RuleBook.outcome_eq_of_rewritten hstep.book hstep.parser
      refine ⟨fun n t => (same n t).trans (outcomes n t), fun t => ?_,
        hstep.parser.expected_eq.symm.trans expected, fun r => ?_, ?_⟩
      · rw [← parses t, RuleBook.parse, RuleBook.parse, RuleBook.run, RuleBook.run,
          RuleBook.parseFuel, RuleBook.parseFuel, hstep.length_eq]
        exact same _ t
      · exact (hstep.book.definition?_map_eq Parser.Rewritten.expected_eq r).trans (definitions r)
      · rw [← seals, RuleBook.map_rules_seal, RuleBook.map_rules_seal]
        exact RuleBook.reachable_eq_of_rewritten hstep.book hstep.parser

/-- A sequence from back to front. -/
def reversed : Value Unit → Except Abort (Value Unit)
  | .sequence vs => .ok (.sequence vs.reverse)
  | v => .ok v

/-- Brackets around brackets or nothing, turned round twice. -/
def turnedTwice : Parser Unit :=
  .map (.map (.seq (.seq (.literal ['[']) (.optional (.rule ⟨0, ['b']⟩))) (.literal [']']))
    reversed) reversed

/-- The same, grouped to the right, converted at once and under a name. -/
def turnedAtOnce : Parser Unit :=
  .named (.map (.seq (.literal ['[']) (.seq (.optional (.rule ⟨0, ['b']⟩)) (.literal [']'])))
    fun v => reversed v >>= reversed) ['t']

/-- Behind the brackets two rules are referred to that have no definition.  The parse comes to the
first of them and sealing complains of the second, before the rewriting and after it. -/
theorem rewriting_exact_brackets :
    let b : RuleBook Unit := ⟨3, [(⟨0, ['b']⟩, turnedTwice)]⟩
    let b' : RuleBook Unit := ⟨3, [(⟨0, ['b']⟩, turnedAtOnce)]⟩
    let p : Parser Unit := .seq (.seq (.rule ⟨0, ['b']⟩) (.rule ⟨1, ['u']⟩)) (.rule ⟨2, ['v']⟩)
    let p' : Parser Unit :=
      .seq (.rule ⟨0, ['b']⟩) (.seq (.named (.rule ⟨1, ['u']⟩) ['x']) (.rule ⟨2, ['v']⟩))
    Relation.ReflTransGen ExactStep (b, p) (b', p') ∧
      b'.parse p' "[[]]".toList = .failed (.unbound ['u']) ∧
        (b'.seal p').map Grammar.rules = .error (.undefined ['v']) := by
  intro b b' p p'
  have inBook : ∀ {d d' : Parser Unit} {q q' : Parser Unit}, Parser.Rewritten ExactLaw d d' →
      Parser.Rewritten ExactLaw q q' →
      ExactStep (⟨3, [(⟨0, ['b']⟩, d)]⟩, q) (⟨3, [(⟨0, ['b']⟩, d')]⟩, q') := fun hd hq =>
    ⟨hq, .of_definitions (.cons ⟨rfl, hd⟩ .nil), rfl⟩
  have steps : Relation.ReflTransGen ExactStep (b, p) (b', p') := by
    refine .tail (.tail (.single (inBook (.law .fuse) (.law .groupRight)))
      (inBook (.map _ (.law .groupRight)) ?_)) (inBook (.law (.name ['t'])) (.refl _))
    exact .seq (.refl _) (.seq (.law (.name ['x'])) (.refl _))
  obtain ⟨-, parses, -, -, seals⟩ := rewriting_exact steps
  exact ⟨steps, (parses _).trans rfl, seals.trans rfl⟩

end Descent
