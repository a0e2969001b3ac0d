import Descent.Proofs.Rests
import Descent.Proofs.Sealing
import Mathlib.Data.List.Perm.Subperm

/-!
# Parses that finish

A parser *opens with* a rule when it may call the rule before it has read anything.  What stands
behind a part of a sequence is behind something that has been read only if the part *consumes*,
that is if it reads something whenever it matches.  A parser is left recursive when a rule that it
reaches comes back to itself through rules that open the definition of the one before.

Every call of a rule inside the definition of another is at a smaller text, or it is one that opens
the definition.  The rules that have been opened one after the other at texts of the same size are
all different, unless there is left recursion, so no more of them are inside each other than there
are definitions.  That is the fuel of `RuleBook.parse`, and it is enough (`parse_finishes`).

All this counts on parsers that leave no more than they are given.  A custom leaf may leave more, and
then what has been read in front of a rule may be there again when the rule is run
(`not_finished_of_givesBack`).
-/

namespace Descent

variable {M : Type}

/-! ## Runs that finish -/

namespace Run

/-- The run does not end for want of fuel. -/
def Finished (r : Run M) : Prop := r.outcome ≠ .unfinished

theorem finished_matched (m : Match M) : (pure (.matched m)).Finished := by
  intro h
  cases h

theorem finished_failed (e : ParseError) : (pure (.failed e) : Run M).Finished := by
  intro h
  cases h

theorem finished_aborted (a : Abort) : (pure (.aborted a) : Run M).Finished := by
  intro h
  cases h

theorem finished_ofExcept (x : Except ParseError (Match M)) : (pure (.ofExcept x)).Finished := by
  cases x with
  | ok m => exact finished_matched m
  | error e => exact finished_failed e

namespace Finished

theorem asCall {p : Parser M} {t : Text} {r : Run M} (h : r.Finished) : (r.asCall p t).Finished := h

theorem onMatch {r : Run M} {k : Match M → Run M} (hr : r.Finished)
    (hk : ∀ m, r.outcome = .matched m → (k m).Finished) : (r.onMatch k).Finished := by
  unfold Run.onMatch
  split
  next m hm => exact hk m hm
  next => exact hr

theorem onMismatch {r : Run M} {k : ParseError → Run M} (hr : r.Finished)
    (hk : ∀ e, (k e).Finished) : (r.onMismatch k).Finished := by
  unfold Run.onMismatch
  split
  next e _ =>
    split
    · exact hk e
    · exact hr
  next => exact hr

/-- Further elements are run at texts that are smaller than the one in front. -/
theorem further {element : Text → Run M} {next : Text → Option Text}
    (hnext : ∀ rest u, next rest = some u → Text.size u ≤ Text.size rest) {n : Nat} :
    ∀ {items : List (Value M)} {before rest : Text},
      (∀ u, Text.size u < Text.size before → (element u).Finished) →
        (Run.further element next n items before rest).Finished := by
  induction n with
  | zero => exact fun _ => finished_matched _
  | succ n ih =>
      intro items before rest he
      by_cases h : Text.size rest < Text.size before ∧ rest ≠ []
      · rw [Run.further, if_pos h]
        cases hu : next rest with
        | none => exact finished_matched _
        | some u =>
            have hlt : Text.size u < Text.size before := Nat.lt_of_le_of_lt (hnext rest u hu) h.1
            have hfinished := he u hlt
            cases ho : (element u).outcome with
            | matched m =>
                simp only [ho]
                exact ih fun v hv => he v (Nat.lt_trans hv h.1)
            | failed e =>
                simp only [ho]
                split
                · exact finished_matched _
                · exact hfinished
            | aborted a =>
                simp only [ho]
                exact hfinished
            | unfinished => exact absurd ho hfinished
      · rw [further_of_not_go h]
        exact finished_matched _

end Finished

end Run

/-! ## Left recursion -/

namespace RuleBook

variable {b : RuleBook M} {p : Parser M}

/-- The parser reads something whenever it matches. -/
def Consumes (b : RuleBook M) (p : Parser M) : Prop :=
  ∀ fuel t m, (p.call (b.resolve fuel) t).outcome = .matched m → Text.size m.rest < Text.size t

/-- The parser may call the rule before it has read anything. -/
inductive OpensWith (b : RuleBook M) : Parser M → Rule → Prop where
  | rule {r} : OpensWith b (.rule r) r
  | seqLeft {p q r} : OpensWith b p r → OpensWith b (.seq p q) r
  /-- Behind a part that may match without reading anything. -/
  | seqRight {p q r} : ¬b.Consumes p → OpensWith b q r → OpensWith b (.seq p q) r
  | choiceLeft {p q r} : OpensWith b p r → OpensWith b (.choice p q) r
  | choiceRight {p q r} : OpensWith b q r → OpensWith b (.choice p q) r
  | map {p f r} : OpensWith b p r → OpensWith b (.map p f) r
  | tryMap {p f r} : OpensWith b p r → OpensWith b (.tryMap p f) r
  | optional {p r} : OpensWith b p r → OpensWith b (.optional p) r
  | many {p r} : OpensWith b p r → OpensWith b (.many p) r
  | sepBy {p sep r} : OpensWith b p r → OpensWith b (.sepBy p sep) r
  | named {p name r} : OpensWith b p r → OpensWith b (.named p name) r

/-- The definition of the first rule opens with the second. -/
def Opens (b : RuleBook M) (r s : Rule) : Prop := ∃ d, b.definition? r = some d ∧ b.OpensWith d s

/-- A rule that the parser reaches comes back to itself before anything has been read. -/
def LeftRecursive (b : RuleBook M) (p : Parser M) : Prop :=
  ∃ r, b.Reaches p (.rule r) ∧ Relation.TransGen b.Opens r r

theorem not_leftRecursive_of_not_opens (h : ∀ r s, ¬b.Opens r s) : ¬b.LeftRecursive p := by
  rintro ⟨r, -, hr⟩
  obtain ⟨s, hs, -⟩ := Relation.TransGen.head'_iff.mp hr
  exact h r s hs

theorem OpensWith.reaches {r : Rule} (h : b.OpensWith p r) : b.Reaches p (.rule r) := by
  induction h with
  | rule => exact .refl _
  | seqLeft _ ih => exact (Reaches.of_part .seqLeft).trans ih
  | seqRight _ _ ih => exact (Reaches.of_part .seqRight).trans ih
  | choiceLeft _ ih => exact (Reaches.of_part .choiceLeft).trans ih
  | choiceRight _ ih => exact (Reaches.of_part .choiceRight).trans ih
  | map _ ih => exact (Reaches.of_part .map).trans ih
  | tryMap _ ih => exact (Reaches.of_part .tryMap).trans ih
  | optional _ ih => exact (Reaches.of_part .optional).trans ih
  | many _ ih => exact (Reaches.of_part .many).trans ih
  | sepBy _ ih => exact (Reaches.of_part .sepBy).trans ih
  | named _ ih => exact (Reaches.of_part .named).trans ih

theorem consumes_literal {word : Text} (hword : word ≠ []) : b.Consumes (.literal word) := by
  intro fuel t m hm
  rw [Parser.outcome_call, Parser.body, Run.outcome_pure, Outcome.ofExcept_eq_matched_iff] at hm
  exact Nat.lt_of_lt_of_le (Leaf.size_lt_of_literal hword hm)
    (Text.size_le_of_suffix (Text.trimStart_suffix t))

/-- The only rule of a book comes back to itself behind a word only. -/
theorem not_leftRecursive_of_word {r : Rule} {word : Text} {q : Parser M} (hword : word ≠ [])
    (hb : b.definitions = [(r, .seq (.literal word) q)]) : ¬b.LeftRecursive p := by
  refine not_leftRecursive_of_not_opens fun r' s ⟨d, hd, hs⟩ => ?_
  have hmem := mem_definitions hd
  rw [hb] at hmem
  obtain ⟨-, rfl⟩ := Prod.mk.inj (List.mem_singleton.mp hmem)
  cases hs with
  | seqLeft hs => cases hs
  | seqRight hc _ => exact hc (consumes_literal hword)

/-! ## Bodies that finish -/

/-- Custom leaves give back no more than they have been given. -/
def LeavesGiveBack (b : RuleBook M) (p : Parser M) : Prop :=
  ∀ x f, b.Reaches p (.custom x f) → ∀ t m, f t = .ok m → Text.size m.rest ≤ Text.size t

/-- The rules that the parser opens with finish at texts up to a size, and all rules that it reaches
finish at smaller texts. -/
structure Ready (b : RuleBook M) (fuel : Nat) (q : Parser M) (n : Nat) : Prop where
  opening : ∀ r, b.OpensWith q r → ∀ u, Text.size u ≤ n → (b.resolve fuel r u).Finished
  below : ∀ r, b.Reaches q (.rule r) → ∀ u, Text.size u < n → (b.resolve fuel r u).Finished

namespace Ready

variable {fuel m n : Nat} {q s : Parser M}

/-- A part that the parser opens with is ready where the parser is. -/
theorem of_part (h : b.Ready fuel q n) (hpart : q.Part s)
    (hopen : ∀ r, b.OpensWith s r → b.OpensWith q r) (hle : m ≤ n) : b.Ready fuel s m where
  opening r hr u hu := h.opening r (hopen r hr) u (Nat.le_trans hu hle)
  below r hr u hu := h.below r ((Reaches.of_part hpart).trans hr) u (Nat.lt_of_lt_of_le hu hle)

/-- Behind something that has been read every part is ready. -/
theorem behind (h : b.Ready fuel q n) (hpart : q.Part s) (hlt : m < n) : b.Ready fuel s m where
  opening r hr u hu :=
    h.below r ((Reaches.of_part hpart).trans hr.reaches) u (Nat.lt_of_le_of_lt hu hlt)
  below r hr u hu := h.below r ((Reaches.of_part hpart).trans hr) u (Nat.lt_trans hu hlt)

end Ready

/-- A parser finishes at every text that it is ready for. -/
theorem body_finished {fuel : Nat} (leaves : b.LeavesGiveBack p) :
    ∀ (q : Parser M) (t : Text), b.Reaches p q → b.Ready fuel q (Text.size t) →
      (q.body (b.resolve fuel) t).Finished
  | .literal word, t, _, _ => Run.finished_ofExcept (Leaf.literal word t)
  | .pattern source regex, t, _, _ => Run.finished_ofExcept (Leaf.pattern source regex t)
  | .custom _ f, t, _, _ => Run.finished_ofExcept (f t)
  | .rule r, t, _, ready => ready.opening r .rule t (Nat.le_refl _)
  | .seq q s, t, h, ready => by
      have hq : b.Reaches p q := h.trans (.of_part .seqLeft)
      have hs : b.Reaches p s := h.trans (.of_part .seqRight)
      have first := body_finished leaves q t hq
        (ready.of_part .seqLeft (fun _ => .seqLeft) (Nat.le_refl _))
      refine .onMatch (.asCall first) fun m hm => .onMatch (.asCall ?_) fun _ _ =>
        Run.finished_matched _
      refine body_finished leaves s m.rest hs ?_
      by_cases consumes : b.Consumes q
      · exact ready.behind .seqRight (consumes fuel t m hm)
      · exact ready.of_part .seqRight (fun _ => .seqRight consumes)
          (call_leaves Trailing.size_le leaves hq fuel t m hm)
  | .choice q s, t, h, ready => by
      have first := body_finished leaves q t (h.trans (.of_part .choiceLeft))
        (ready.of_part .choiceLeft (fun _ => .choiceLeft) (Nat.le_refl _))
      have second := body_finished leaves s t (h.trans (.of_part .choiceRight))
        (ready.of_part .choiceRight (fun _ => .choiceRight) (Nat.le_refl _))
      exact .onMismatch (.asCall first) fun _ => .onMismatch (.asCall second) fun _ =>
        Run.finished_failed _
  | .map q f, t, h, ready => by
      have first := body_finished leaves q t (h.trans (.of_part .map))
        (ready.of_part .map (fun _ => .map) (Nat.le_refl _))
      refine .onMatch (.asCall first) fun m _ => ?_
      split
      · exact Run.finished_matched _
      · exact Run.finished_aborted _
  | .tryMap q f, t, h, ready => by
      have first := body_finished leaves q t (h.trans (.of_part .tryMap))
        (ready.of_part .tryMap (fun _ => .tryMap) (Nat.le_refl _))
      refine .onMatch (.asCall first) fun m _ => ?_
      split
      · exact Run.finished_matched _
      · exact Run.finished_failed _
      · exact Run.finished_aborted _
  | .optional q, t, h, ready => by
      have first := body_finished leaves q t (h.trans (.of_part .optional))
        (ready.of_part .optional (fun _ => .optional) (Nat.le_refl _))
      exact .onMismatch (.asCall first) fun _ => Run.finished_matched _
  | .many q, t, h, ready => by
      have hq : b.Reaches p q := h.trans (.of_part .many)
      have first := body_finished leaves q t hq
        (ready.of_part .many (fun _ => .many) (Nat.le_refl _))
      refine .onMatch (.asCall first) fun m _ => .further ?_ fun u hu => .asCall ?_
      · intro rest u hu
        cases hu
        exact Nat.le_refl _
      · exact body_finished leaves q u hq (ready.behind .many hu)
  | .sepBy q sep, t, h, ready => by
      have hq : b.Reaches p q := h.trans (.of_part .sepBy)
      have first := body_finished leaves q t hq
        (ready.of_part .sepBy (fun _ => .sepBy) (Nat.le_refl _))
      refine .onMismatch (.onMatch (.asCall first) fun m _ => ?_) fun _ =>
        Run.finished_failed _
      refine .further ?_ fun u hu => .asCall ?_
      · exact fun _ _ hu => Text.size_le_of_suffix (Parser.suffix_of_elementAfter? hu)
      · exact body_finished leaves q u hq (ready.behind .sepBy hu)
  | .named q _, t, h, ready =>
      body_finished leaves q t (h.trans (.of_part .named))
        (ready.of_part .named (fun _ => .named) (Nat.le_refl _))

/-! ## Rules inside each other -/

/-- A rule finishes at a text with fuel for each smaller size and for each definition that is not
among the rules opened before at this size.  Such a rule opens the way to the one that is run, so
without left recursion it is another rule. -/
theorem resolve_finished (leaves : b.LeavesGiveBack p) (acyclic : ¬b.LeftRecursive p) :
    ∀ (fuel : Nat) (r : Rule) (t : Text) (opened : List Rule), b.Reaches p (.rule r) →
      opened.Nodup → opened ⊆ b.definitions.map Prod.fst →
      (∀ x ∈ opened, Relation.TransGen b.Opens x r) →
      Text.size t * (b.definitions.length + 1) + (b.definitions.length - opened.length) < fuel →
        (b.resolve fuel r t).Finished
  | 0, _, _, _, _, _, _, _, hfuel => absurd hfuel (Nat.not_lt_zero _)
  | fuel + 1, r, t, opened, h, nodup, defined, opens, hfuel => by
      rw [resolve]
      cases hd : b.definition? r with
      | none => exact Run.finished_failed _
      | some d =>
          have hr : r ∉ opened := fun hmem => acyclic ⟨r, h, opens r hmem⟩
          have nodup' : (r :: opened).Nodup := List.nodup_cons.mpr ⟨hr, nodup⟩
          have defined' : r :: opened ⊆ b.definitions.map Prod.fst :=
            List.cons_subset.mpr ⟨List.mem_map_of_mem (mem_definitions hd), defined⟩
          have hlength : opened.length + 1 ≤ b.definitions.length := by
            simpa using (nodup'.subperm defined').length_le
          refine .asCall (body_finished leaves d t (h.trans (.of_definition hd)) ⟨?_, ?_⟩)
          · intro s hs u hu
            have hrs : b.Opens r s := ⟨d, hd, hs⟩
            refine resolve_finished leaves acyclic fuel s u (r :: opened)
              (h.trans ((Reaches.of_definition hd).trans hs.reaches)) nodup' defined' ?_ ?_
            · intro x hx
              rcases List.mem_cons.mp hx with rfl | hx
              · exact .single hrs
              · exact (opens x hx).tail hrs
            · have hmul := Nat.mul_le_mul_right (b.definitions.length + 1) hu
              rw [List.length_cons]
              omega
          · intro s hs u hu
            refine resolve_finished leaves acyclic fuel s u []
              (h.trans ((Reaches.of_definition hd).trans hs)) List.nodup_nil
              (List.nil_subset _) (List.forall_mem_nil _) ?_
            have hmul := Nat.mul_le_mul_right (b.definitions.length + 1) (Nat.succ_le_of_lt hu)
            rw [Nat.succ_mul] at hmul
            rw [List.length_nil]
            omega

/-- The fuel of a parse of a text is enough for every rule that the parser reaches, at every text
that is no larger. -/
theorem resolve_parseFuel_finished (leaves : b.LeavesGiveBack p) (acyclic : ¬b.LeftRecursive p)
    {r : Rule} (hr : b.Reaches p (.rule r)) {t u : Text} (hu : Text.size u ≤ Text.size t) :
    (b.resolve (b.parseFuel t) r u).Finished := by
  refine resolve_finished leaves acyclic _ r u [] hr List.nodup_nil (List.nil_subset _)
    (List.forall_mem_nil _) ?_
  have hmul := Nat.mul_le_mul_right (b.definitions.length + 1) hu
  rw [parseFuel, Nat.succ_mul, List.length_nil]
  omega

theorem parse_finished (leaves : b.LeavesGiveBack p) (acyclic : ¬b.LeftRecursive p) (t : Text) :
    b.parse p t ≠ .unfinished :=
  body_finished leaves p t (.refl p)
    ⟨fun _ hr _ hu => resolve_parseFuel_finished leaves acyclic hr.reaches hu,
      fun _ hr _ hu => resolve_parseFuel_finished leaves acyclic hr (Nat.le_of_lt hu)⟩

end RuleBook

/-- Without left recursion every parse finishes, provided that custom leaves give back no more than
they have been given.  The bound on the rounds of a repetition has no part in this: the rounds end
where they would end under any greater bound. -/
theorem parse_finishes {b : RuleBook M} {p : Parser M} (leaves : b.LeavesGiveBack p)
    (acyclic : ¬b.LeftRecursive p) (t : Text) :
    b.parse p t ≠ .unfinished ∧
      ∀ (element : Text → Run M) (next : Text → Option Text) (u : Text) (m : Match M) (n : Nat),
        Text.size u ≤ n →
          Run.further element next n m.output.solidItems u m.rest =
            Run.repeatFrom element next u m :=
  ⟨RuleBook.parse_finished leaves acyclic t,
    fun _ _ _ _ _ hn => Run.further_eq Iff.rfl hn (Nat.le_refl _)⟩

/-- Brackets around brackets, any number of which may be missing. -/
def bracketsBook : RuleBook Unit :=
  ⟨1, [(⟨0, ['b']⟩,
    .seq (.literal ['[']) (.seq (.many (.optional (.rule ⟨0, ['b']⟩))) (.literal [']'])))]⟩

/-- The elements may be empty, and so are the separators; the rule comes back to itself behind a
bracket only. -/
theorem parse_finishes_brackets :
    let p : Parser Unit := .sepBy (.choice (.rule ⟨0, ['b']⟩) (.custom [] (Leaf.take [] 0 .token))) []
    (bracketsBook.LeavesGiveBack p ∧ ¬bracketsBook.LeftRecursive p) ∧
      bracketsBook.parse p "[[] []][".toList ≠ .unfinished := by
  intro p
  have leaves : bracketsBook.LeavesGiveBack p := by
    intro x f hf t m hm
    have leaf : f = Leaf.take [] 0 .token :=
      RuleBook.Reaches.of_parts (P := fun q => ∀ x f, q = .custom x f → f = Leaf.take [] 0 .token)
        (by simp [p, Parser.parts]) (by simp [bracketsBook, Parser.parts]) hf x f rfl
    rw [leaf, Leaf.take, if_pos (Nat.zero_le _)] at hm
    cases hm
    exact Nat.le_refl _
  have acyclic : ¬bracketsBook.LeftRecursive p :=
    RuleBook.not_leftRecursive_of_word (List.cons_ne_nil _ _) rfl
  exact ⟨⟨leaves, acyclic⟩, (parse_finishes leaves acyclic _).1⟩

/-- A leaf that leaves an `a` at every text. -/
def givesBack : Parser Unit := .custom [] fun _ => .ok ⟨.unit, ['a']⟩

/-- A rule that reads an `a` and comes back to itself, behind a leaf that gives the `a` back. -/
def givesBackBook : RuleBook Unit :=
  ⟨1, [(⟨0, ['r']⟩, .seq (.literal ['a']) (.seq givesBack (.rule ⟨0, ['r']⟩)))]⟩

/-- A sequence does not come to an end if its second part does not behind the first. -/
theorem Parser.unfinished_seq {run : Rule → Text → Run M} {p q : Parser M} {t : Text} {m : Match M}
    (hp : (p.body run t).outcome = .matched m) (hq : (q.body run m.rest).outcome = .unfinished) :
    ((p.seq q).body run t).outcome = .unfinished := by
  simp [Parser.body, Run.onMatch, hp, hq]

/-- The rule is run at the same text in every round, so no fuel is enough. -/
theorem resolve_givesBackBook (n : Nat) :
    (givesBackBook.resolve n ⟨0, ['r']⟩ ['a']).outcome = .unfinished := by
  induction n with
  | zero => rfl
  | succ n ih =>
      have hword : ((Parser.literal ['a'] : Parser Unit).body (givesBackBook.resolve n)
          ['a']).outcome = .matched ⟨.unit, []⟩ := rfl
      have hleaf : (givesBack.body (givesBackBook.resolve n) []).outcome =
          .matched ⟨.unit, ['a']⟩ := rfl
      exact Parser.unfinished_seq hword (Parser.unfinished_seq hleaf ih)

/-- An `a` whose conversion gives up. -/
def unmapped : Parser Unit := .map (.literal ['a']) fun _ => .error ⟨"mapper panicked".toList⟩

/-- The rule comes back to itself only behind a word that has been read, and still it does not come
to an end with any fuel.  And a parse that comes to an end may do so without a match or an error, if
a conversion gives up. -/
theorem not_finished_of_givesBack :
    ¬givesBackBook.LeftRecursive (.rule ⟨0, ['r']⟩) ∧
    (∀ n, ((Parser.rule ⟨0, ['r']⟩).call (givesBackBook.resolve n) ['a']).outcome = .unfinished) ∧
    ¬RuleBook.empty.LeftRecursive unmapped ∧
    RuleBook.empty.parse unmapped ['a'] = .aborted ⟨"mapper panicked".toList⟩ := by
  refine ⟨RuleBook.not_leftRecursive_of_word (List.cons_ne_nil _ _) rfl, resolve_givesBackBook, ?_,
    rfl⟩
  rintro ⟨r, hr, -⟩
  have norule := RuleBook.Reaches.of_parts (P := fun q => ∀ r, q ≠ .rule r)
    (by simp [unmapped, Parser.parts]) (List.forall_mem_nil _) hr
  exact norule r rfl

end Descent
