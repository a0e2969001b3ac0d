import Descent.Proofs.Limit
import Descent.Proofs.Repetition

/-!
# Unrolled repetition

A repetition is its first element and then, perhaps, a repetition of *rounds*.  Without separators a
round is the element, and a repetition of repetitions is the repetition itself (`many_unrolls`);
with separators a round is the separator and the element behind it (`separated_unrolls`).

Two things are asked of the element.  It must make the text smaller, or else a repetition stops for
lack of progress and a round does not.  And it must be calm at the end of the text, for a round is
tried there when a repetition no longer is.  To be calm is to come to an end there too: an element
that falls into left recursion at the end of the text neither fails nor gives up there, and the
unrolled form alone falls into it (`many_not_unrolled`, `separated_not_unrolled`).
-/

namespace Descent

variable {M : Type}

namespace Text

/-- All blanks in front of a separator are skipped, if it does not start with a blank itself. -/
theorem afterSeparator?_eq_some_iff {sep t u : Text}
    (hsep : ∀ c, sep.head? = some c → isBlank c = false) :
    afterSeparator? sep t = some u ↔ trimStart t = sep ++ u := by
  have hblank : (fun c => isBlank c && sep.head? != some c) = isBlank := by
    funext c
    by_cases hc : sep.head? = some c
    · simp [hsep c hc]
    · simp [hc]
  rw [afterSeparator?, hblank, after?_eq_some_iff, trimStart]

end Text

namespace Parser

variable {run : Rule → Text → Run M} {p q : Parser M} {next : Text → Option Text}
  {t s r u : Text} {v w : Value M} {vs ws : List (Value M)}

/-! ## Elements -/

/-- Every match of the parser leaves less than there was. -/
def Shortens (run : Rule → Text → Run M) (p : Parser M) : Prop :=
  ∀ t v rest, p.Reads run t v rest → Text.size rest < Text.size t

/-- At the end of the text the parser fails with no fault, no conversion gives up, and the parser
comes to an end. -/
structure CalmAtEnd (run : Rule → Text → Run M) (p : Parser M) : Prop where
  isRecoverable : ∀ e, p.Fails run [] e → e.isRecoverable = true
  not_aborted : ∀ a, (p.body run []).outcome ≠ .aborted a
  finished : (p.body run []).outcome ≠ .unfinished

theorem Shortens.not_reads_nil (shortens : p.Shortens run) : ¬p.Reads run [] v r := fun hread =>
  Nat.not_lt_zero _ (shortens [] v r hread)

/-- An element that is calm at the end of the text has no choice there but a mismatch. -/
theorem Shortens.rejects_nil (shortens : p.Shortens run) (calm : p.CalmAtEnd run) :
    p.Rejects run [] := by
  cases ho : (p.body run []).outcome with
  | matched m => exact absurd ho shortens.not_reads_nil
  | failed e => exact ⟨e, ho, calm.isRecoverable e ho⟩
  | aborted a => exact absurd ho (calm.not_aborted a)
  | unfinished => exact absurd ho calm.finished

/-! ## Chains -/

theorem Chain.concat (chain : Chain run p next t vs r) (hnext : next r = some u)
    (hread : p.Reads run u v s) (hlt : Text.size s < Text.size r) :
    Chain run p next t (vs ++ [v]) s := by
  induction chain with
  | nil => exact .cons hnext hread hlt (.nil s)
  | cons hnext' hread' hlt' _ ih => exact .cons hnext' hread' hlt' (ih hnext hlt)

theorem Chain.ne_nil (chain : Chain run p next t vs r) (hr : r ≠ []) : t ≠ [] := by
  cases chain with
  | nil => exact hr
  | cons _ _ hlt _ =>
      rintro rfl
      exact Nat.not_lt_zero _ hlt

/-- A repetition comes to the end of a chain, if something is left there. -/
theorem Chain.comesTo (chain : Chain run p some s vs r) (hr : r ≠ []) :
    ∀ {us}, ComesTo run p some t us s s → ComesTo run p some t (us ++ vs) r r := by
  induction chain with
  | nil => exact fun h => by rwa [List.append_nil]
  | cons hnext hread hlt chain ih =>
      intro us h
      cases hnext
      rw [List.append_cons]
      exact ih hr (h.later hread ⟨hlt, chain.ne_nil hr, rfl⟩)

/-- What is fatal behind a chain is fatal for the repetition, also if that may be left out. -/
theorem Chain.outcome_eq_of_isFatal (chain : Chain run q some s ws r) (hr : r ≠ [])
    (hfatal : (q.body run r).outcome.isFatal = true) :
    ((optional (many q)).body run s).outcome = (q.body run r).outcome := by
  have hcomes := chain.comesTo hr .first
  have hmany : ((many q).body run s).outcome = (q.body run r).outcome :=
    outcome_many.trans ((repeated_eq_fatal_iff hfatal).mpr ⟨_, r, r, hcomes, rfl⟩)
  rw [outcome_optional, hmany, Outcome.orElse_eq_of_not_isMismatch]
  rintro ⟨e, he, hrec⟩
  rw [he, Outcome.isFatal_failed, hrec] at hfatal
  cases hfatal

/-! ## Rounds -/

/-- The parser `q` is a round of a repetition of `p`: at a text it does what `p` does where the next
element starts, and it rejects the text where the repetition halts. -/
structure IsRound (run : Rule → Text → Run M) (p : Parser M) (next : Text → Option Text)
    (q : Parser M) : Prop where
  size_le : ∀ {r u}, next r = some u → Text.size u ≤ Text.size r
  reads : ∀ {r u v s}, next r = some u → p.Reads run u v s →
    ∃ w, q.Reads run r w s ∧ w.solidItems = v.solidItems
  fatal : ∀ {r u}, next r = some u → (p.body run u).outcome.isFatal = true →
    (q.body run r).outcome = (p.body run u).outcome
  halts : ∀ {r}, Halts run p next r → q.Rejects run r

namespace IsRound

variable (round : IsRound run p next q) (shortens : p.Shortens run)

include round shortens

/-- The elements that a repetition has read are its first and a chain of rounds. -/
theorem exists_chain {rest start : Text} (h : ComesTo run p next t vs rest start) :
    ∀ {v rest'}, p.Reads run start v rest' → ∃ v₀ s ws, p.Reads run t v₀ s ∧
      Chain run q some s ws rest' ∧
        v₀.solidItems ++ ws.flatMap Value.solidItems = (vs ++ [v]).flatMap Value.solidItems := by
  induction h with
  | first => exact fun hread => ⟨_, _, [], hread, .nil _, by simp⟩
  | later _ hread hgo ih =>
      intro v' rest'' hread'
      obtain ⟨v₀, s, ws, hfirst, chain, hitems⟩ := ih hread
      obtain ⟨w, hw, hwv⟩ := round.reads hgo.next_eq hread'
      have hlt := Nat.lt_of_lt_of_le (shortens _ _ _ hread') (round.size_le hgo.next_eq)
      refine ⟨v₀, s, ws ++ [w], hfirst, chain.concat rfl hw hlt, ?_⟩
      rw [List.flatMap_append, ← List.append_assoc, hitems, @List.flatMap_append _ _ _ [v']]
      simp [hwv]

/-- A repetition ends as its unrolled form does. -/
theorem outcome_eq {o : Outcome M} (h : Repeats run p next t o) :
    ((seq p (optional (many q))).body run t).outcome = o := by
  have behind : ∀ {v s}, p.Reads run t v s → ((seq p (optional (many q))).body run t).outcome =
      ((optional (many q)).body run s).outcome.andThen fun n =>
        .matched ⟨v.join n.output, n.rest⟩ := by
    intro v s hread
    rw [outcome_seq, hread]
    rfl
  cases h with
  | @stops vs rest start v rest' hcomes hread hstop =>
      obtain ⟨v₀, s, ws, hfirst, chain, hitems⟩ := round.exists_chain shortens hcomes hread
      have hlt : Text.size rest' < Text.size rest := by
        refine Nat.lt_of_lt_of_le (shortens _ _ _ hread) ?_
        cases hcomes with
        | first => exact Nat.le_refl _
        | later _ _ hgo => exact round.size_le hgo.next_eq
      have hhalts := hstop.resolve_left (not_not.mpr hlt)
      obtain ⟨w, hw, hwitems⟩ := chain.optional_many (round.halts hhalts)
      have hseq := hfirst.seq hw
      rwa [Value.join_eq, hwitems, hitems] at hseq
  | rejects hfail => exact hfail.seqLeft
  | @fatal vs rest start o hcomes ho hfatal =>
      cases hcomes with
      | first =>
          rw [outcome_seq, ho]
          cases o with
          | matched m => cases hfatal
          | failed e | aborted a | unfinished => rfl
      | later hcomes hread hgo =>
          obtain ⟨v₀, s, ws, hfirst, chain, -⟩ := round.exists_chain shortens hcomes hread
          have hround := (round.fatal hgo.next_eq (ho ▸ hfatal)).trans ho
          rw [behind hfirst, chain.outcome_eq_of_isFatal hgo.nonempty (hround ▸ hfatal), hround]
          cases o with
          | matched m => cases hfatal
          | failed e | aborted a | unfinished => rfl

end IsRound

/-- Without separators a round is an element. -/
theorem isRound_self (shortens : p.Shortens run) (calm : p.CalmAtEnd run) :
    IsRound run p some p where
  size_le h := by cases h; exact Nat.le_refl _
  reads h hread := by cases h; exact ⟨_, hread, rfl⟩
  fatal h _ := by cases h; rfl
  halts h := by
    rcases halts_some_iff.mp h with rfl | hrej
    · exact shortens.rejects_nil calm
    · exact hrej

/-! ## Separators -/

section Separated

variable {sep : Text}

/-- With separators a round is the separator and the element behind it. -/
theorem isRound_separated (hsep : sep ≠ [])
    (hblank : ∀ c, sep.head? = some c → Text.isBlank c = false) (shortens : p.Shortens run)
    (calm : p.CalmAtEnd run) : IsRound run p (elementAfter? sep) (seq (literal sep) p) := by
  have literal_reads : ∀ {r u}, Text.afterSeparator? sep r = some u →
      (literal sep : Parser M).Reads run r .unit u := fun h =>
    .literal ((Text.afterSeparator?_eq_some_iff hblank).mp h)
  refine ⟨fun h => Text.size_le_of_suffix (suffix_of_elementAfter? h), fun h hread => ?_,
    fun h hfatal => ?_, fun {r} h => ?_⟩
  · have hjoin := (literal_reads (elementAfter?_eq_some_iff.mp h).1).seq hread
    exact ⟨_, hjoin, Value.solidItems_join _ _⟩
  · rw [outcome_seq, literal_reads (elementAfter?_eq_some_iff.mp h).1, Outcome.andThen]
    cases ho : (p.body run _).outcome with
    | matched m => rw [ho] at hfatal; cases hfatal
    | failed e | aborted a | unfinished => rfl
  · cases hafter : Text.afterSeparator? sep r with
    | none =>
        refine Rejects.seqLeft (.literal ?_)
        rintro ⟨u, hu⟩
        rw [(Text.afterSeparator?_eq_some_iff hblank).mpr hu.symm] at hafter
        cases hafter
    | some u =>
        rcases halts_elementAfter?_iff.mp h with rfl | hnone
        · have hnil := (Text.afterSeparator?_eq_some_iff hblank).mp hafter
          exact absurd (List.append_eq_nil_iff.mp hnil.symm).1 hsep
        · refine .seqRight (literal_reads hafter) ?_
          rcases hnone u hafter with rfl | hrej
          · exact shortens.rejects_nil calm
          · exact hrej

end Separated

/-! ## Repetitions of repetitions -/

/-- A repetition stops where nothing is left or the element is rejected. -/
theorem Shortens.halts (shortens : p.Shortens run) (h : (many p).Reads run t w r) :
    (r = [] ∨ p.Rejects run r) ∧ w = .sequence w.solidItems := by
  have hrepeated : repeated run p some t = .matched ⟨w, r⟩ := outcome_many.symm.trans h
  obtain ⟨vs, rest, start, v, hcomes, hread, hstop, rfl⟩ := repeated_eq_matched_iff.mp hrepeated
  cases hcomes.start_eq
  refine ⟨halts_some_iff.mp (hstop.resolve_left (not_not.mpr (shortens _ _ _ hread))), ?_⟩
  rw [Value.solidItems_flatMap]

/-- The repetition of a repetition reads it once. -/
theorem Shortens.many_many (shortens : p.Shortens run) (t : Text) :
    ((many (many p)).body run t).outcome = ((many p).body run t).outcome := by
  refine outcome_many.trans (Repeats.repeated_eq ?_)
  cases ho : ((many p).body run t).outcome with
  | matched m =>
      obtain ⟨hr, hw⟩ := shortens.halts ho
      have hhalts : Halts run (many p) some m.rest := halts_some_iff.mpr (hr.imp_right .many)
      have hstops := Repeats.stops .first ho (Or.inr hhalts)
      rwa [List.nil_append, List.flatMap_singleton, ← hw] at hstops
  | failed e =>
      cases he : e.isRecoverable with
      | true => exact .rejects ho he
      | false => exact .fatal .first ho (by rw [Outcome.isFatal_failed, he]; rfl)
  | aborted a => exact .fatal .first ho rfl
  | unfinished => exact .fatal .first ho rfl

theorem Shortens.not_reads_again (shortens : p.Shortens run) :
    ¬(seq (many p) p).Reads run t v r := by
  intro h
  obtain ⟨m, hm, hbehind⟩ := Run.onMatch_eq_matched_iff.mp h
  obtain ⟨n, hn, -⟩ := Run.onMatch_eq_matched_iff.mp hbehind
  rcases (shortens.halts hm).1 with hnil | ⟨e, he, -⟩
  · rw [hnil] at hn
    exact shortens.not_reads_nil hn
  · exact nomatch he.symm.trans hn

/-! ## Repetitions unrolled -/

/-- An entry is an opening parenthesis or a dollar sign at least. -/
theorem shortens_entry (n : Nat) : entry.Shortens (RuleBook.empty.resolve n) := by
  have leaves : ∀ q ∈ entry.parts, RuleBook.empty.LeavesGiveBack q := by
    intro q hq x f hf t m hm
    have htake := (RuleBook.Reaches.of_mem_parts hq).trans hf |>.of_parts
      (P := fun s => ∀ x f, s = .custom x f → f = Leaf.take [] 1 .token)
      (by simp [entry, Parser.parts]) (List.forall_mem_nil _) x f rfl
    rw [htake, Leaf.take] at hm
    split at hm
    · cases hm
      exact Text.size_le_of_suffix (List.drop_suffix 1 t)
    · cases hm
  have consumes : RuleBook.empty.Consumes entry := by
    refine .choice (.seq (leaves _ ?_) (RuleBook.consumes_literal (List.cons_ne_nil _ _)))
      (.seq (leaves _ ?_) (RuleBook.consumes_literal (List.cons_ne_nil _ _)))
    · simp [entry, Parser.parts]
    · simp [entry, Parser.parts]
  exact fun t v rest hread => consumes n t ⟨v, rest⟩ hread

theorem calmAtEnd_entry (n : Nat) : entry.CalmAtEnd (RuleBook.empty.resolve n) := by
  have rejected : (entry.body (RuleBook.empty.resolve n) []).outcome =
      .failed (.choice "( +  + )|$ + r".toList []) := rfl
  refine ⟨fun e he => ?_, fun a ha => ?_, fun hun => ?_⟩
  · cases rejected.symm.trans he
    rfl
  · cases rejected.symm.trans ha
  · cases rejected.symm.trans hun

/-! ### An element without an end -/

/-- A rule that is defined as itself. -/
def loopBook : RuleBook Unit := ⟨1, [(⟨0, ['r']⟩, .rule ⟨0, ['r']⟩)]⟩

/-- The definition of the rule asks for the rule again, so no fuel is enough. -/
theorem resolve_loopBook (n : Nat) (t : Text) :
    (loopBook.resolve n ⟨0, ['r']⟩ t).outcome = .unfinished := by
  induction n with
  | zero => rfl
  | succ n ih => exact ih

/-- An `a`, or else the rule that is defined as itself. -/
def orLoop : Parser Unit := .choice (.literal ['a']) (.rule ⟨0, ['r']⟩)

theorem outcome_orLoop (n : Nat) (t : Text) : (orLoop.body (loopBook.resolve n) t).outcome =
    ((literal ['a'] : Parser Unit).body (loopBook.resolve n) t).outcome.orElse .unfinished := by
  have hrule : ((rule ⟨0, ['r']⟩ : Parser Unit).body (loopBook.resolve n) t).outcome =
      .unfinished := resolve_loopBook n t
  rw [orLoop, outcome_choice, hrule]
  rfl

theorem reads_orLoop (n : Nat) (t : Text) :
    orLoop.Reads (loopBook.resolve n) ('a' :: t) .unit t := .choiceLeft (.literal rfl)

theorem unfinished_orLoop (n : Nat) :
    (orLoop.body (loopBook.resolve n) []).outcome = .unfinished := outcome_orLoop n []

theorem not_fails_orLoop (n : Nat) (e : ParseError) : ¬orLoop.Fails (loopBook.resolve n) [] e :=
  fun he => nomatch (unfinished_orLoop n).symm.trans he

theorem not_aborted_orLoop (n : Nat) (a : Abort) :
    (orLoop.body (loopBook.resolve n) []).outcome ≠ .aborted a :=
  fun ha => nomatch (unfinished_orLoop n).symm.trans ha

/-- Only the first branch matches. -/
theorem shortens_orLoop (n : Nat) : orLoop.Shortens (loopBook.resolve n) := by
  have never : loopBook.Consumes (.rule ⟨0, ['r']⟩) := fun n t m hm =>
    nomatch (resolve_loopBook n t).symm.trans hm
  have consumes : loopBook.Consumes orLoop :=
    .choice (RuleBook.consumes_literal (List.cons_ne_nil _ _)) never
  exact fun t v rest hread => consumes n t ⟨v, rest⟩ hread

/-! ### Without separators -/

/-- Of an element that makes the text smaller, the repetition of a repetition is the repetition,
down to its errors, and no element can be read behind a repetition.  If the element is calm at the
end of the text too, a repetition is its first element and then perhaps a repetition: they end in
the same way at every text. -/
theorem many_unrolls {run : Rule → Text → Run M} {p : Parser M} (shortens : p.Shortens run) :
    (∀ t, ((many (many p)).body run t).outcome = ((many p).body run t).outcome) ∧
    (∀ t v rest, ¬(seq (many p) p).Reads run t v rest) ∧
    (p.CalmAtEnd run → ∀ t,
      ((many p).body run t).outcome = ((seq p (optional (many p))).body run t).outcome) := by
  refine ⟨shortens.many_many, fun t v rest => shortens.not_reads_again, fun calm t => ?_⟩
  have hrepeats : Repeats run p some t ((many p).body run t).outcome :=
    outcome_many ▸ repeats_repeated
  exact ((isRound_self shortens calm).outcome_eq shortens hrepeats).symm

/-- Two entries are read alike in all three ways, and the fault of a second entry is the fault of
all. -/
theorem many_unrolls_entries :
    let run := RuleBook.empty.resolve 1
    let w : Value Unit := .sequence [.token ['a'], .token ['b']]
    entry.Shortens run ∧ entry.CalmAtEnd run ∧
      (many (many entry)).Reads run "(a) (b)!".toList w ['!'] ∧
      (many entry).Reads run "(a) (b)!".toList w ['!'] ∧
      (seq entry (optional (many entry))).Reads run "(a) (b)!".toList w ['!'] ∧
      (many (many entry)).Fails run "(a)$".toList (.unbound ['r']) ∧
      ¬∃ v rest, (seq (many entry) entry).Reads run "(a) (b)".toList v rest := by
  intro run w
  have hread : (seq entry (optional (many entry))).Reads run "(a) (b)!".toList w ['!'] := rfl
  have hfail : (many entry).Fails run "(a)$".toList (.unbound ['r']) := rfl
  obtain ⟨once, never, unrolls⟩ := many_unrolls (shortens_entry 1)
  have hmany := (unrolls (calmAtEnd_entry 1) _).trans hread
  exact ⟨shortens_entry 1, calmAtEnd_entry 1, (once _).trans hmany, hmany, hread,
    (once _).trans hfail, fun ⟨v, rest, h⟩ => never _ v rest h⟩

/-- An element that makes the text smaller, and has no fault and no conversion that gives up at the
end of the text, for it does not come to an end there.  The repetition reads an `a` and stops, since
nothing is left; the unrolled form tries another one and does not come to an end with any fuel.
Where a conversion gives up, neither form has an output or an error. -/
theorem many_not_unrolled :
    (∀ n, orLoop.Shortens (loopBook.resolve n)) ∧
    (∀ n e, ¬orLoop.Fails (loopBook.resolve n) [] e) ∧
    (∀ n a, (orLoop.body (loopBook.resolve n) []).outcome ≠ .aborted a) ∧
    (∀ n, (many orLoop).Reads (loopBook.resolve n) ['a'] (.sequence []) []) ∧
    (∀ n, ((seq orLoop (optional (many orLoop))).body (loopBook.resolve n) ['a']).outcome =
      .unfinished) ∧
    ((many unmapped).body (RuleBook.empty.resolve 1) ['a']).outcome =
      .aborted ⟨"mapper panicked".toList⟩ ∧
    ((seq unmapped (optional (many unmapped))).body (RuleBook.empty.resolve 1) ['a']).outcome =
      .aborted ⟨"mapper panicked".toList⟩ := by
  refine ⟨shortens_orLoop, not_fails_orLoop, not_aborted_orLoop, fun n => ?_, fun n => ?_, rfl, rfl⟩
  · exact .many (.cons rfl (reads_orLoop n []) (by decide) (.nil _)) .nothing
  · refine unfinished_seq (reads_orLoop n []) ?_
    rw [outcome_optional, outcome_many, unfinished_orLoop n]
    rfl

/-! ### With separators -/

/-- A repetition with separators, of an element that makes the text smaller and is calm at its end,
is the first element and then perhaps a repetition of the separator and an element: both match with
the same output and the same rest, or both fail with a mismatch, or both fail with the same fault.
Where the element is such that a conversion in it gives up at some text, or that it does not come to
an end there, both forms may do so too, and then both do.  The separator does not start with a
blank. -/
theorem separated_unrolls {run : Rule → Text → Run M} {p : Parser M} {sep : Text} (hsep : sep ≠ [])
    (hblank : ∀ c, sep.head? = some c → Text.isBlank c = false) (shortens : p.Shortens run)
    (calm : p.CalmAtEnd run) {t : Text} {listed unrolled : Outcome M}
    (hlisted : ((sepBy p sep).body run t).outcome = listed)
    (hunrolled : ((seq p (optional (many (seq (literal sep) p)))).body run t).outcome = unrolled) :
    (∃ m, listed = .matched m ∧ unrolled = .matched m) ∨
    (listed.IsMismatch ∧ unrolled.IsMismatch) ∨
    (∃ e, e.isRecoverable = false ∧ listed = .failed e ∧ unrolled = .failed e) ∨
    (∃ a u, (p.body run u).outcome = .aborted a ∧ listed = .aborted a ∧ unrolled = .aborted a) ∨
    ∃ u, (p.body run u).outcome = .unfinished ∧ listed = .unfinished ∧ unrolled = .unfinished := by
  have round := isRound_separated hsep hblank shortens calm
  have hrepeated : repeated run p (elementAfter? sep) t = unrolled :=
    hunrolled ▸ (round.outcome_eq shortens repeats_repeated).symm
  have hreplaced : unrolled.orElse (.failed (.repetition p.expected t)) = listed :=
    hrepeated ▸ outcome_sepBy.symm.trans hlisted
  cases unrolled with
  | matched m => exact Or.inl ⟨m, hreplaced.symm, rfl⟩
  | failed e =>
      rw [Outcome.orElse_failed] at hreplaced
      cases he : e.isRecoverable with
      | true =>
          rw [he] at hreplaced
          exact Or.inr (Or.inl ⟨⟨_, hreplaced.symm, rfl⟩, e, rfl, he⟩)
      | false =>
          rw [he] at hreplaced
          exact Or.inr (Or.inr (Or.inl ⟨e, he, hreplaced.symm, rfl⟩))
  | aborted a =>
      obtain ⟨_, _, u, _, hu⟩ := (repeated_eq_fatal_iff rfl).mp hrepeated
      exact Or.inr (Or.inr (Or.inr (Or.inl ⟨a, u, hu, hreplaced.symm, rfl⟩)))
  | unfinished =>
      obtain ⟨_, _, u, _, hu⟩ := (repeated_eq_fatal_iff rfl).mp hrepeated
      exact Or.inr (Or.inr (Or.inr (Or.inr ⟨u, hu, hreplaced.symm, rfl⟩)))

/-- A comma that no entry follows is left in both forms, and an entry that ends in a fault behind
a comma is the fault of both. -/
theorem separated_unrolls_dangling :
    let run := RuleBook.empty.resolve 1
    let unrolled := seq entry (optional (many (seq (literal [',']) entry)))
    entry.Shortens run ∧ entry.CalmAtEnd run ∧
      (∃ m, ((sepBy entry [',']).body run "(a) ,(b),!".toList).outcome = .matched m ∧
        (unrolled.body run "(a) ,(b),!".toList).outcome = .matched m ∧ m.rest = [',', '!']) ∧
      (sepBy entry [',']).Fails run "(a),$".toList (.unbound ['r']) ∧
      unrolled.Fails run "(a),$".toList (.unbound ['r']) := by
  intro run unrolled
  have shortens := shortens_entry 1
  have calm := calmAtEnd_entry 1
  have hread : unrolled.Reads run "(a) ,(b),!".toList (.sequence [.token ['a'], .token ['b']])
      [',', '!'] := rfl
  have hfail : unrolled.Fails run "(a),$".toList (.unbound ['r']) := rfl
  have hblank : ∀ c, [','].head? = some c → Text.isBlank c = false := fun c hc => by cases hc; rfl
  refine ⟨shortens, calm, ?_, ?_, hfail⟩
  · rcases separated_unrolls (List.cons_ne_nil _ _) hblank shortens calm rfl hread with
      ⟨m, hm, hm'⟩ | ⟨-, e, he, -⟩ | ⟨e, -, -, he⟩ | ⟨a, u, -, -, ha⟩ | ⟨u, -, -, hun⟩
    · cases hm'
      exact ⟨_, hm, hread, rfl⟩
    · cases he
    · cases he
    · cases ha
    · cases hun
  · rcases separated_unrolls (List.cons_ne_nil _ _) hblank shortens calm rfl hfail with
      ⟨m, -, hm⟩ | ⟨-, e, he, hrec⟩ | ⟨e, -, hlisted, he⟩ | ⟨a, u, -, -, ha⟩ | ⟨u, -, -, hun⟩
    · cases hm
    · cases he
      cases hrec
    · cases he
      exact hlisted
    · cases ha
    · cases hun

/-- An element that makes the text smaller, and has no fault and no conversion that gives up at the
end of the text, for it does not come to an end there.  The list leaves a comma behind an `a`, since
no element may start behind it; the unrolled form tries one and does not come to an end with any
fuel.  Where a conversion gives up, neither form matches and neither fails. -/
theorem separated_not_unrolled :
    (∀ n, orLoop.Shortens (loopBook.resolve n)) ∧
    (∀ n e, ¬orLoop.Fails (loopBook.resolve n) [] e) ∧
    (∀ n a, (orLoop.body (loopBook.resolve n) []).outcome ≠ .aborted a) ∧
    (∀ n, (sepBy orLoop [',']).Reads (loopBook.resolve n) ['a', ','] (.sequence []) [',']) ∧
    (∀ n, ((seq orLoop (optional (many (seq (literal [',']) orLoop)))).body (loopBook.resolve n)
      ['a', ',']).outcome = .unfinished) ∧
    ((sepBy unmapped [',']).body (RuleBook.empty.resolve 1) ['a']).outcome =
      .aborted ⟨"mapper panicked".toList⟩ ∧
    ((seq unmapped (optional (many (seq (literal [',']) unmapped)))).body
      (RuleBook.empty.resolve 1) ['a']).outcome = .aborted ⟨"mapper panicked".toList⟩ := by
  refine ⟨shortens_orLoop, not_fails_orLoop, not_aborted_orLoop, fun n => ?_, fun n => ?_, rfl, rfl⟩
  · exact .sepBy (reads_orLoop n [',']) (by decide) (.nil _) (.noStart rfl)
  · have hcomma : (literal [','] : Parser Unit).Reads (loopBook.resolve n) [','] .unit [] :=
      .literal rfl
    refine unfinished_seq (reads_orLoop n [',']) ?_
    rw [outcome_optional, outcome_many, unfinished_seq hcomma (unfinished_orLoop n)]
    rfl

end Parser

end Descent
