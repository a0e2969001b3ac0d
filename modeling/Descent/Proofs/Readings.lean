import Descent.Proofs.Refactoring
import Descent.Proofs.Rests

/-!
# What parsers make of a text

At a text a parser *reads* a value and leaves the rest, or it *fails* with an error.  It *rejects*
the text when the error is a mismatch.  Each combinator has its rules, which tell what it does from
what its parts do; how rules of the grammar are run is left open.

A repetition reads a *chain*: elements one after the other, each at the text that `next` gives
behind the one before.  It *halts* where nothing is left, where no element may start, and where the
next one is rejected.  So what a repetition reads is a chain up to where it halts (`Reads.many`,
`Reads.sepBy`), and a fault behind a chain is a fault of the repetition (`Fails.many`).
-/

namespace Descent

variable {M : Type}

/-- The items of a repetition have no units among them. -/
theorem Value.solidItems_flatMap (vs : List (Value M)) :
    (sequence (vs.flatMap solidItems)).solidItems = vs.flatMap solidItems := by
  rw [solidItems, items_sequence, List.filter_eq_self]
  intro w hw
  obtain ⟨v, -, hw⟩ := List.mem_flatMap.mp hw
  exact (List.mem_filter.mp hw).2

/-- A repetition keeps every converted value as an item of its own. -/
theorem Value.flatMap_solidItems_mapped {α : Type} (f : α → M) (xs : List α) :
    (xs.map fun x => mapped (f x)).flatMap solidItems = xs.map fun x => mapped (f x) := by
  induction xs with
  | nil => rfl
  | cons x xs ih => rw [List.map_cons, List.flatMap_cons, ih]; rfl

namespace Parser

variable (run : Rule → Text → Run M)

/-- The parser matches at the text, puts out the value and leaves the rest. -/
def Reads (p : Parser M) (t : Text) (v : Value M) (rest : Text) : Prop :=
  (p.body run t).outcome = .matched ⟨v, rest⟩

/-- The parser fails at the text with the error. -/
def Fails (p : Parser M) (t : Text) (e : ParseError) : Prop := (p.body run t).outcome = .failed e

/-- The parser fails at the text with a mismatch. -/
def Rejects (p : Parser M) (t : Text) : Prop := (p.body run t).outcome.IsMismatch

variable {run} {p q : Parser M} {t u s r : Text} {v w : Value M} {e : ParseError}

theorem Rejects.fails (h : p.Rejects run t) : ∃ e, p.Fails run t e ∧ e.isRecoverable = true := h

theorem Fails.rejects (h : p.Fails run t e) (he : e.isRecoverable = true) : p.Rejects run t :=
  ⟨e, h, he⟩

/-! ## Outcomes of compositions -/

/-- The second part starts where the first has ended, and nothing of it runs unless the first
matches. -/
theorem outcome_seq : ((seq p q).body run t).outcome = (p.body run t).outcome.andThen fun m =>
    (q.body run m.rest).outcome.andThen fun n => .matched ⟨m.output.join n.output, n.rest⟩ := by
  simp only [body, Run.outcome_onMatch, Run.outcome_asCall, Run.outcome_pure]

/-- A choice lets through any outcome of a branch but a mismatch.  After two mismatches the error is
its own, at the text that both branches were given. -/
theorem outcome_choice : ((choice p q).body run t).outcome = (p.body run t).outcome.orElse
    ((q.body run t).outcome.orElse
      (.failed (.choice (p.expected ++ "|".toList ++ q.expected) t))) := by
  simp only [body, Run.outcome_onMismatch, Run.outcome_asCall, Run.outcome_pure]

theorem outcome_optional : ((optional p).body run t).outcome =
    (p.body run t).outcome.orElse (.matched (.empty t)) := by
  simp only [body, Run.outcome_onMismatch, Run.outcome_asCall, Run.outcome_pure]

theorem outcome_many : ((many p).body run t).outcome = (p.body run t).outcome.andThen fun m =>
    (Run.repeatFrom (fun u => (p.body run u).asCall p u) some t m).outcome := by
  simp only [body, Run.outcome_onMatch, Run.outcome_asCall]

/-- Unlike the plain repetition, a separated one turns a mismatch of its first element into an error
of its own. -/
theorem outcome_sepBy {sep : Text} : ((sepBy p sep).body run t).outcome =
    ((p.body run t).outcome.andThen fun m =>
      (Run.repeatFrom (fun u => (p.body run u).asCall p u) (elementAfter? sep) t m).outcome).orElse
        (.failed (.repetition p.expected t)) := by
  simp only [body, Run.outcome_onMismatch, Run.outcome_onMatch, Run.outcome_asCall,
    Run.outcome_pure]

/-! ## Leaves -/

/-- Blanks in front of the word are skipped, and the word itself leaves no token. -/
theorem Reads.literal {word : Text} (h : Text.trimStart t = word ++ u) :
    (literal word : Parser M).Reads run t .unit u :=
  Outcome.ofExcept_eq_matched_iff.mpr (Leaf.literal_eq_ok_iff.mpr ⟨rfl, h⟩)

/-- Not finding the word is never a fault. -/
theorem Rejects.literal {word : Text} (h : ¬word <+: Text.trimStart t) :
    (literal word : Parser M).Rejects run t := by
  refine ⟨.literal word (Text.trimStart t), ?_, rfl⟩
  rw [body, Run.outcome_pure, Leaf.literal]
  cases ha : Text.after? word (Text.trimStart t) with
  | none => rfl
  | some rest => exact absurd ⟨rest, (Text.after?_eq_some_iff.mp ha).symm⟩ h

/-- What the search passes over on its way to the token is dropped. -/
theorem Reads.pattern {source token : Text} {regex : Regex}
    (h : regex.find? (Text.trimStart t) = some (token, u)) :
    (pattern source regex : Parser M).Reads run t (.token token) u :=
  Outcome.ofExcept_eq_matched_iff.mpr (Leaf.pattern_eq_ok_iff.mpr ⟨token, rfl, h⟩)

theorem Rejects.pattern {source : Text} {regex : Regex}
    (h : regex.find? (Text.trimStart t) = none) :
    (pattern source regex : Parser M).Rejects run t := by
  refine ⟨.pattern source (Text.trimStart t), ?_, rfl⟩
  rw [body, Run.outcome_pure, Leaf.pattern, h]
  rfl

/-! ## Sequence and choice -/

theorem Reads.seq (hp : p.Reads run t v u) (hq : q.Reads run u w s) :
    (seq p q).Reads run t (v.join w) s := by
  rw [Reads, outcome_seq, hp, Outcome.andThen, hq]
  rfl

theorem Fails.seqLeft (h : p.Fails run t e) : (Parser.seq p q).Fails run t e := by
  rw [Fails, outcome_seq, h]
  rfl

/-- What the first part has read does not come back: the error is that of the second part, at its
own text. -/
theorem Fails.seqRight (hp : p.Reads run t v u) (hq : q.Fails run u e) :
    (Parser.seq p q).Fails run t e := by
  rw [Fails, outcome_seq, hp, Outcome.andThen, hq]
  rfl

theorem Rejects.seqLeft (h : p.Rejects run t) : (Parser.seq p q).Rejects run t := by
  obtain ⟨e, hfail, he⟩ := h.fails
  exact hfail.seqLeft.rejects he

/-- A sequence that stops halfway is a mismatch as well, so a choice around it goes on to its next
branch at the text in front. -/
theorem Rejects.seqRight (hp : p.Reads run t v u) (hq : q.Rejects run u) :
    (Parser.seq p q).Rejects run t := by
  obtain ⟨e, hfail, he⟩ := hq.fails
  exact (Fails.seqRight hp hfail).rejects he

theorem Reads.choiceLeft (h : p.Reads run t v u) : (choice p q).Reads run t v u := by
  rw [Reads, outcome_choice, h]
  rfl

theorem Reads.choiceRight (hp : p.Rejects run t) (hq : q.Reads run t v u) :
    (choice p q).Reads run t v u := by
  rw [Reads, outcome_choice, hp.orElse_eq, hq]
  rfl

/-- A fault keeps the second branch from being tried. -/
theorem Fails.choiceLeft (h : p.Fails run t e) (he : e.isRecoverable = false) :
    (choice p q).Fails run t e := by
  rw [Fails, outcome_choice, h, Outcome.orElse_failed, he]
  rfl

/-- The error that a choice makes up is a mismatch, so that choices may be nested. -/
theorem Rejects.choice (hp : p.Rejects run t) (hq : q.Rejects run t) :
    (choice p q).Rejects run t := by
  rw [Rejects, outcome_choice, hp.orElse_eq, hq.orElse_eq]
  exact Outcome.isMismatch_choice _ _

/-! ## Conversion and option -/

section Conversion

variable {f : Value M → Except Abort (Value M)} {g : Value M → Except Refusal (Value M)}

/-- A conversion sees the value only: the rest is that of the parser under it. -/
theorem Reads.map (h : p.Reads run t v u) (hf : f v = .ok w) : (map p f).Reads run t w u := by
  rw [Reads, body, Run.outcome_onMatch, Run.outcome_asCall, h, Outcome.andThen, hf]
  rfl

/-- Nothing is converted where nothing has been read. -/
theorem Rejects.map (h : p.Rejects run t) : (Parser.map p f).Rejects run t := by
  obtain ⟨e, hfail, he⟩ := h.fails
  refine ⟨e, ?_, he⟩
  rw [body, Run.outcome_onMatch, Run.outcome_asCall, hfail]
  rfl

theorem Reads.tryMap (h : p.Reads run t v u) (hg : g v = .ok w) :
    (tryMap p g).Reads run t w u := by
  rw [Reads, body, Run.outcome_onMatch, Run.outcome_asCall, h, Outcome.andThen, hg]
  rfl

/-- An error of the parser under a conversion passes through it, fault or not. -/
theorem Fails.tryMap (h : p.Fails run t e) : (Parser.tryMap p g).Fails run t e := by
  rw [Fails, body, Run.outcome_onMatch, Run.outcome_asCall, h]
  rfl

theorem Rejects.tryMap (h : p.Rejects run t) : (Parser.tryMap p g).Rejects run t := by
  obtain ⟨e, hfail, he⟩ := h.fails
  exact hfail.tryMap.rejects he

/-- A value that is rejected is a fault at the text that it has been read from. -/
theorem Fails.of_reject {reason : Text} (h : p.Reads run t v u)
    (hg : g v = .error (.reject reason)) :
    (Parser.tryMap p g).Fails run t (.mapping p.expected t reason) := by
  rw [Fails, body, Run.outcome_onMatch, Run.outcome_asCall, h, Outcome.andThen, hg]
  rfl

end Conversion

/-- A name changes what error messages expect of a parser, and not what the parser does. -/
theorem reads_named_iff {name : Text} : (named p name).Reads run t v u ↔ p.Reads run t v u :=
  Iff.rfl

theorem fails_named_iff {name : Text} : (named p name).Fails run t e ↔ p.Fails run t e := Iff.rfl

theorem Reads.named {name : Text} (h : p.Reads run t v u) : (named p name).Reads run t v u := h

theorem Rejects.named {name : Text} (h : p.Rejects run t) : (Parser.named p name).Rejects run t := h

/-- An option that is taken puts out the value as it is, with nothing put around it. -/
theorem Reads.optional (h : p.Reads run t v u) : (optional p).Reads run t v u := by
  rw [Reads, outcome_optional, h]
  rfl

/-- An option that is left out gives the text back as it was, blanks included. -/
theorem Rejects.optional (h : p.Rejects run t) : (Parser.optional p).Reads run t .unit t := by
  rw [Reads, outcome_optional, h.orElse_eq]
  rfl

/-- Only a mismatch lets an option be left out. -/
theorem Fails.optional (h : p.Fails run t e) (he : e.isRecoverable = false) :
    (Parser.optional p).Fails run t e := by
  rw [Fails, outcome_optional, h, Outcome.orElse_failed, he]
  rfl

/-! ## Repetition -/

variable {next : Text → Option Text} {vs : List (Value M)}

/-- Elements are read one after the other, and each makes the text smaller. -/
inductive Chain (run : Rule → Text → Run M) (p : Parser M) (next : Text → Option Text) :
    Text → List (Value M) → Text → Prop where
  | nil (t : Text) : Chain run p next t [] t
  | cons {t u s r : Text} {v : Value M} {vs : List (Value M)} :
      next t = some u → p.Reads run u v s → Text.size s < Text.size t → Chain run p next s vs r →
        Chain run p next t (v :: vs) r

/-- No further element is read at the text, and that is no fault. -/
inductive Halts (run : Rule → Text → Run M) (p : Parser M) (next : Text → Option Text) :
    Text → Prop where
  | nothing : Halts run p next []
  | noStart {r : Text} : next r = none → Halts run p next r
  | rejects {r u : Text} : next r = some u → p.Rejects run u → Halts run p next r

/-- The rounds of a repetition take up a chain. -/
theorem Chain.further_eq (h : Chain run p next t vs r) :
    ∀ (n : Nat) (items : List (Value M)) (before : Text), Text.size t < Text.size before →
      Text.size before ≤ n → ∃ n' before', Text.size r < Text.size before' ∧
        Text.size before' ≤ n' ∧
        (Run.further (fun u => (p.body run u).asCall p u) next n items before t).outcome =
          (Run.further (fun u => (p.body run u).asCall p u) next n'
            (items ++ vs.flatMap Value.solidItems) before' r).outcome := by
  induction h with
  | nil t =>
      intro n items before hlt hn
      exact ⟨n, before, hlt, hn, by rw [List.flatMap_nil, List.append_nil]⟩
  | @cons t u s r v vs hnext hread hsmall _ ih =>
      intro n items before hlt hn
      obtain ⟨n, rfl⟩ : ∃ k, n = k + 1 := ⟨n - 1, by omega⟩
      obtain ⟨n', before', hlt', hn', heq⟩ := ih n (items ++ v.solidItems) t hsmall (by omega)
      have hne : t ≠ [] := by
        rintro rfl
        exact absurd hsmall (Nat.not_lt_zero _)
      have hread : (p.body run u).outcome = .matched ⟨v, s⟩ := hread
      refine ⟨n', before', hlt', hn', ?_⟩
      rw [List.flatMap_cons, ← List.append_assoc, ← heq, Run.further, if_pos ⟨hlt, hne⟩]
      simp only [hnext, Run.outcome_asCall, hread, Run.outcome_after]

/-- Where a repetition halts, what has been collected is its value, whatever rounds are left. -/
theorem Halts.further_eq (h : Halts run p next r) (n : Nat) (items : List (Value M))
    (before : Text) :
    (Run.further (fun u => (p.body run u).asCall p u) next n items before r).outcome =
      .matched ⟨.sequence items, r⟩ := by
  by_cases hgo : Text.size r < Text.size before ∧ r ≠ []
  · cases n with
    | zero => rfl
    | succ n =>
        rw [Run.further, if_pos hgo]
        cases h with
        | nothing => exact absurd rfl hgo.2
        | noStart hnone => simp only [hnone, Run.outcome_pure]
        | rejects hnext hrej =>
            obtain ⟨e, hfail, he⟩ := hrej.fails
            have hfail : (p.body run _).outcome = .failed e := hfail
            simp only [hnext, Run.outcome_asCall, hfail, he, if_true]
  · rw [Run.further_of_not_go hgo]
    rfl

/-- A fault in a round throws away what has been collected. -/
theorem Fails.further_eq (h : p.Fails run u e) (he : e.isRecoverable = false)
    (hnext : next r = some u) (hr : r ≠ []) {n : Nat} {before : Text}
    (hlt : Text.size r < Text.size before) (hn : Text.size before ≤ n) (items : List (Value M)) :
    (Run.further (fun u => (p.body run u).asCall p u) next n items before r).outcome =
      .failed e := by
  obtain ⟨n, rfl⟩ : ∃ k, n = k + 1 := ⟨n - 1, by omega⟩
  have hfail : (p.body run u).outcome = .failed e := h
  rw [Run.further, if_pos ⟨hlt, hr⟩]
  simp [hnext, hfail, he]

/-- The rounds behind a first element add the items of a chain to the items of that element. -/
theorem Chain.repeatFrom_eq (chain : Chain run p next s vs r)
    (hlt : Text.size s < Text.size t) (halts : Halts run p next r) :
    (Run.repeatFrom (fun u => (p.body run u).asCall p u) next t ⟨v, s⟩).outcome =
      .matched ⟨.sequence ((v :: vs).flatMap Value.solidItems), r⟩ := by
  obtain ⟨n', before', -, -, heq⟩ := chain.further_eq _ v.solidItems t hlt (Nat.le_refl _)
  rw [Run.repeatFrom, heq, halts.further_eq, List.flatMap_cons]

/-- A repetition reads a chain that is not empty, and puts out the items of all its elements in one
sequence. -/
theorem Reads.many (chain : Chain run p some t (v :: vs) r) (halts : Halts run p some r) :
    (many p).Reads run t (.sequence ((v :: vs).flatMap Value.solidItems)) r := by
  cases chain with
  | cons hnext hread hlt chain =>
      cases hnext
      rw [Reads, outcome_many, hread]
      exact chain.repeatFrom_eq hlt halts

/-- A repetition wants one element at least. -/
theorem Rejects.many (h : p.Rejects run t) : (Parser.many p).Rejects run t := by
  obtain ⟨e, hfail, he⟩ := h.fails
  refine ⟨e, ?_, he⟩
  rw [outcome_many, hfail]
  rfl

/-- A fault behind a chain is a fault of the repetition. -/
theorem Fails.many (chain : Chain run p some t vs r) (hr : r ≠ []) (h : p.Fails run r e)
    (he : e.isRecoverable = false) : (Parser.many p).Fails run t e := by
  rw [Fails, outcome_many]
  cases chain with
  | nil =>
      rw [h]
      rfl
  | cons hnext hread hlt chain =>
      cases hnext
      obtain ⟨n', before', hlt', hn', heq⟩ := chain.further_eq _ _ t hlt (Nat.le_refl _)
      rw [hread]
      exact heq.trans (h.further_eq he rfl hr hlt' hn' _)

/-- The first element stands by itself and each one of the chain behind a separator, so that a
separator without an element behind it is left in the rest. -/
theorem Reads.sepBy {sep : Text} (hread : p.Reads run t v s) (hlt : Text.size s < Text.size t)
    (chain : Chain run p (elementAfter? sep) s vs r) (halts : Halts run p (elementAfter? sep) r) :
    (sepBy p sep).Reads run t (.sequence ((v :: vs).flatMap Value.solidItems)) r := by
  rw [Reads, outcome_sepBy, hread, Outcome.andThen, chain.repeatFrom_eq hlt halts]
  rfl

theorem Rejects.sepBy {sep : Text} (h : p.Rejects run t) : (Parser.sepBy p sep).Rejects run t := by
  obtain ⟨e, hfail, he⟩ := h.fails
  refine ⟨.repetition p.expected t, ?_, rfl⟩
  rw [outcome_sepBy, hfail, Outcome.andThen_failed, Outcome.orElse_failed, if_pos he]

/-- A repetition that may be left out reads any chain up to where the elements are rejected. -/
theorem Chain.optional_many (chain : Chain run p some t vs r) (h : p.Rejects run r) :
    ∃ v, (Parser.optional (Parser.many p)).Reads run t v r ∧
      v.solidItems = vs.flatMap Value.solidItems := by
  cases chain with
  | nil => exact ⟨.unit, h.many.optional, rfl⟩
  | cons hnext hread hlt chain =>
      exact ⟨_, (Reads.many (.cons hnext hread hlt chain) (.rejects rfl h)).optional,
        Value.solidItems_flatMap _⟩

end Parser

end Descent
