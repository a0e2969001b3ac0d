import Descent.Proofs.Anchored
import Descent.Proofs.Matches
import Descent.Proofs.Reach
import Mathlib.Data.List.TakeWhile

/-!
# What a match has read

A parser is *verbatim* when it puts out what it reads and nothing else: its patterns match at the
front, and it has no conversions and no custom leaves.  The text that a verbatim parser reads is its
tokens in order, with *gaps* between them; a gap is put together from blanks, words of literals and
separators of the grammar (`matched_woven`).  A choice that fails, an option that is left out, and a
separator behind which no element follows leave nothing behind, neither text nor tokens.

The text is followed through two accumulations: `join` puts the items of two values one after the
other, and a repetition appends the items of one element after the other to those it has.
-/

namespace Descent

variable {M : Type}

/-! ## Texts behind blanks -/

namespace Text

theorem exists_blanks_append_dropWhile {P : Char → Bool}
    (h : ∀ c, P c = true → isBlank c = true) (t : Text) :
    ∃ w : Text, (∀ c ∈ w, isBlank c = true) ∧ t = w ++ t.dropWhile P :=
  ⟨t.takeWhile P, fun c hc => h c (List.mem_takeWhile_imp hc),
    List.takeWhile_append_dropWhile.symm⟩

theorem exists_blanks_append_trimStart (t : Text) :
    ∃ w : Text, (∀ c ∈ w, isBlank c = true) ∧ t = w ++ trimStart t :=
  exists_blanks_append_dropWhile (fun _ hc => hc) t

/-- Some blanks in front of a separator are skipped, and how many depends on the separator, but
nothing else is. -/
theorem exists_blanks_of_afterSeparator? {sep t u : Text} (h : afterSeparator? sep t = some u) :
    ∃ w : Text, (∀ c ∈ w, isBlank c = true) ∧ t = w ++ sep ++ u := by
  obtain ⟨w, hw, ht⟩ := exists_blanks_append_dropWhile
    (P := fun c => isBlank c && sep.head? != some c) (fun _ hc => (Bool.and_eq_true_iff.mp hc).1) t
  refine ⟨w, hw, ?_⟩
  rw [List.append_assoc, ← after?_eq_some_iff.mp h]
  exact ht

end Text

/-! ## Tokens -/

namespace Value

/-- Units have no tokens, so nothing is lost without them. -/
theorem tokens_solidItems (v : Value M) : v.solidItems.flatMap tokens = v.tokens := by
  have drop : ∀ vs : List (Value M),
      (vs.filter fun w => !w.isUnit).flatMap tokens = vs.flatMap tokens := by
    intro vs
    induction vs with
    | nil => rfl
    | cons w vs ih =>
        rw [List.flatMap_cons, ← ih]
        cases w <;> rfl
  rw [solidItems, drop]
  cases v with
  | unit => rfl
  | token t => simp
  | sequence vs => simp
  | mapped m => simp

/-- Joining two values may drop units and open sequences, and neither has to do with tokens. -/
theorem tokens_join (v w : Value M) : (v.join w).tokens = v.tokens ++ w.tokens := by
  rw [join_eq, tokens_sequence, List.flatMap_append, tokens_solidItems, tokens_solidItems]

end Value

/-! ## Woven texts -/

/-- Texts of a kind `W` one after the other. -/
def Gap (W : Text → Prop) (g : Text) : Prop := ∃ ws : List Text, (∀ w ∈ ws, W w) ∧ g = ws.flatten

/-- The text is the tokens in order, with a gap in front of each and one behind the last. -/
inductive Woven (W : Text → Prop) : Text → List Text → Prop where
  | last {g} : Gap W g → Woven W g []
  | token {g t c ts} : Gap W g → Woven W c ts → Woven W (g ++ t ++ c) (t :: ts)

/-- The text starts with the tokens, woven with gaps, and the rest follows. -/
def StartsWoven (W : Text → Prop) (t : Text) (ts : List Text) (rest : Text) : Prop :=
  ∃ c, t = c ++ rest ∧ Woven W c ts

variable {W : Text → Prop}

namespace Gap

theorem nil : Gap W [] := ⟨[], nofun, rfl⟩

theorem append {g h : Text} (hg : Gap W g) (hh : Gap W h) : Gap W (g ++ h) := by
  obtain ⟨ws, hws, rfl⟩ := hg
  obtain ⟨vs, hvs, rfl⟩ := hh
  refine ⟨ws ++ vs, fun w hw => ?_, List.flatten_append.symm⟩
  exact (List.mem_append.mp hw).elim (hws w) (hvs w)

theorem of_word {w : Text} (h : W w) : Gap W w :=
  ⟨[w], fun _ hv => List.mem_singleton.mp hv ▸ h, by simp⟩

/-- Where single blanks are allowed, any number of them is. -/
theorem of_blanks (blank : ∀ {c}, Text.isBlank c = true → W [c]) {w : Text}
    (h : ∀ c ∈ w, Text.isBlank c = true) : Gap W w := by
  refine ⟨w.map fun c => [c], fun v hv => ?_, ?_⟩
  · obtain ⟨c, hc, rfl⟩ := List.mem_map.mp hv
    exact blank (h c hc)
  · induction w with
    | nil => rfl
    | cons c w ih =>
        rw [List.map_cons, List.flatten_cons, ← ih fun d hd => h d (List.mem_cons_of_mem _ hd)]
        rfl

end Gap

namespace Woven

/-- A gap in front of a woven text makes its first gap longer. -/
theorem prepend {g c : Text} {ts : List Text} (hg : Gap W g) (hc : Woven W c ts) :
    Woven W (g ++ c) ts := by
  cases hc with
  | last hlast => exact .last (hg.append hlast)
  | token hg' hc =>
      rw [← List.append_assoc, ← List.append_assoc]
      exact .token (hg.append hg') hc

theorem append {c d : Text} {ts us : List Text} (hc : Woven W c ts) (hd : Woven W d us) :
    Woven W (c ++ d) (ts ++ us) := by
  induction hc with
  | last hg => exact hd.prepend hg
  | token hg _ ih =>
      rw [List.append_assoc]
      exact .token hg ih

end Woven

namespace StartsWoven

/-- What is skipped is a gap in front of what comes next. -/
theorem of_gap {g : Text} (h : Gap W g) (rest : Text) : StartsWoven W (g ++ rest) [] rest :=
  ⟨g, rfl, .last h⟩

theorem of_token {g : Text} (h : Gap W g) (t rest : Text) :
    StartsWoven W (g ++ (t ++ rest)) [t] rest :=
  ⟨g ++ t ++ [], by simp, .token h (.last .nil)⟩

theorem trans {t u rest : Text} {ts us : List Text} (h : StartsWoven W t ts u)
    (h' : StartsWoven W u us rest) : StartsWoven W t (ts ++ us) rest := by
  obtain ⟨c, rfl, hc⟩ := h
  obtain ⟨d, rfl, hd⟩ := h'
  exact ⟨c ++ d, (List.append_assoc ..).symm, hc.append hd⟩

end StartsWoven

/-! ## Runs that read what they put out -/

/-- Where the run at the text matches, the text starts with the tokens that it puts out. -/
def Run.Reads (W : Text → Prop) (t : Text) (r : Run M) : Prop :=
  ∀ m, r.outcome = .matched m → StartsWoven W t m.output.tokens m.rest

namespace Run.Reads

variable {t : Text}

theorem seq {r : Run M} {s : Text → Run M} (hr : r.Reads W t) (hs : ∀ u, (s u).Reads W u) :
    (r.onMatch fun m => (s m.rest).onMatch fun n =>
      pure (.matched ⟨m.output.join n.output, n.rest⟩)).Reads W t := by
  intro x hx
  obtain ⟨m, hm, hx⟩ := onMatch_eq_matched_iff.mp hx
  obtain ⟨n, hn, hx⟩ := onMatch_eq_matched_iff.mp hx
  cases hx
  rw [Value.tokens_join]
  exact (hr m hm).trans (hs m.rest n hn)

theorem onMismatch {r : Run M} {k : ParseError → Run M} (hr : r.Reads W t)
    (hk : ∀ e, (k e).Reads W t) : (r.onMismatch k).Reads W t := by
  intro m hm
  rcases onMismatch_eq_matched_iff.mp hm with hm | ⟨e, -, -, hm⟩
  · exact hr m hm
  · exact hk e m hm

theorem repetition {element : Text → Run M} {next : Text → Option Text}
    (he : ∀ u, (element u).Reads W u)
    (hnext : ∀ rest u, next rest = some u → ∃ g, Gap W g ∧ rest = g ++ u) :
    ((element t).onMatch fun m => repeatFrom element next t m).Reads W t := by
  intro x hx
  obtain ⟨m, hm, hx⟩ := onMatch_eq_matched_iff.mp hx
  have first : StartsWoven W t (m.output.solidItems.flatMap Value.tokens) m.rest := by
    rw [Value.tokens_solidItems]
    exact he t m hm
  have step : ∀ {items rest u n}, StartsWoven W t (items.flatMap Value.tokens) rest →
      next rest = some u → (element u).outcome = .matched n →
        StartsWoven W t ((items ++ n.output.solidItems).flatMap Value.tokens) n.rest := by
    intro items rest u n hread hu hn
    obtain ⟨g, hg, rfl⟩ := hnext rest u hu
    rw [List.flatMap_append, Value.tokens_solidItems]
    exact hread.trans ((StartsWoven.of_gap hg u).trans (he u n hn))
  obtain ⟨items, hitems, hread⟩ := further_matched
    (I := fun items rest => StartsWoven W t (items.flatMap Value.tokens) rest) step first hx
  rw [hitems, Value.tokens_sequence]
  exact hread

end Run.Reads

/-! ## Verbatim parsers -/

namespace Parser

/-- The parser itself puts out what it reads: a pattern matches at the front of every text without
blanks in front, and nothing is converted or left to a function. -/
def IsVerbatim : Parser M → Prop
  | pattern _ regex => ∀ t token rest,
      regex.find? (Text.trimStart t) = some (token, rest) → Text.trimStart t = token ++ rest
  | custom _ _ => False
  | map _ _ => False
  | tryMap _ _ => False
  | _ => True

end Parser

/-- The parser of every lexeme is built, and its pattern matches at the front. -/
theorem Lexeme.isVerbatim (l : Lexeme) :
    ∃ p : Parser M, l.parser = .ok p ∧ ∀ q ∈ p.parts, q.IsVerbatim := by
  obtain ⟨regex, hc, hanchored⟩ := l.exists_anchored
  refine ⟨.named (.pattern l.source regex) l.name, ?_, ?_⟩
  · rw [Lexeme.parser, Parser.ofPattern, hc]
    rfl
  · intro q hq
    rcases List.mem_cons.mp hq with rfl | hq
    · trivial
    · cases List.mem_singleton.mp hq
      exact fun _ _ _ hfind => hanchored.front hfind

namespace RuleBook

variable {b : RuleBook M} {p : Parser M}

/-- A text that is read without being put out: a blank, the word of a literal or a separator. -/
inductive Filler (b : RuleBook M) (p : Parser M) : Text → Prop where
  | blank {c} : Text.isBlank c = true → Filler b p [c]
  | literal {word} : b.Reaches p (.literal word) → Filler b p word
  | separator {q sep} : b.Reaches p (.sepBy q sep) → Filler b p sep

theorem reads_literal {word t : Text} (h : b.Reaches p (.literal word)) :
    (Run.pure (.ofExcept (Leaf.literal word t)) : Run M).Reads (b.Filler p) t := by
  intro m hm
  obtain ⟨w, hw, ht⟩ := Text.exists_blanks_append_trimStart t
  rw [Run.outcome_pure, Leaf.literal] at hm
  cases hrest : Text.after? word (Text.trimStart t) with
  | none => rw [hrest] at hm; cases hm
  | some rest =>
      rw [hrest] at hm
      cases hm
      rw [Text.after?_eq_some_iff.mp hrest, ← List.append_assoc] at ht
      rw [ht]
      exact .of_gap ((Gap.of_blanks .blank hw).append (.of_word (.literal h))) rest

/-- Only a pattern that drops nothing on the way to its token reads just what it puts out. -/
theorem reads_pattern {source t : Text} {regex : Regex}
    (front : ∀ t token rest,
      regex.find? (Text.trimStart t) = some (token, rest) → Text.trimStart t = token ++ rest) :
    (Run.pure (.ofExcept (Leaf.pattern source regex t)) : Run M).Reads (b.Filler p) t := by
  intro m hm
  obtain ⟨w, hw, ht⟩ := Text.exists_blanks_append_trimStart t
  rw [Run.outcome_pure, Leaf.pattern] at hm
  cases hfind : regex.find? (Text.trimStart t) with
  | none => rw [hfind] at hm; cases hm
  | some found =>
      obtain ⟨token, rest⟩ := found
      rw [hfind] at hm
      cases hm
      rw [front t token rest hfind] at ht
      rw [ht]
      exact .of_token (Gap.of_blanks .blank hw) token rest

/-- Behind an element stand blanks and, where elements are separated, a separator. -/
theorem gap_of_elementAfter? {q : Parser M} {sep t u : Text} (h : b.Reaches p (.sepBy q sep))
    (hu : Parser.elementAfter? sep t = some u) : ∃ g, Gap (b.Filler p) g ∧ t = g ++ u := by
  unfold Parser.elementAfter? at hu
  split at hu
  next hsep =>
    cases hu
    obtain ⟨w, hw, ht⟩ := Text.exists_blanks_of_afterSeparator? hsep
    exact ⟨w ++ sep, (Gap.of_blanks .blank hw).append (.of_word (.separator h)), ht⟩
  next => cases hu

/-- The bodies of parsers that are reached read what they put out, if rules do. -/
theorem body_reads (verbatim : ∀ q, b.Reaches p q → q.IsVerbatim)
    {resolve : Rule → Text → Run M}
    (rules : ∀ r t, b.Reaches p (.rule r) → (resolve r t).Reads (b.Filler p) t) :
    ∀ (q : Parser M) (t : Text), b.Reaches p q → (q.body resolve t).Reads (b.Filler p) t
  | .literal _, _, h => reads_literal h
  | .pattern _ _, _, h => reads_pattern (verbatim _ h)
  | .custom _ _, _, h => (verbatim _ h).elim
  | .rule r, t, h => rules r t h
  | .seq q s, t, h => by
      have second : ∀ u, ((s.body resolve u).asCall s u).Reads (b.Filler p) u := fun u =>
        body_reads verbatim rules s u (h.trans (.of_part .seqRight))
      exact .seq (s := fun u => (s.body resolve u).asCall s u)
        (body_reads verbatim rules q t (h.trans (.of_part .seqLeft))) second
  | .choice q s, t, h => by
      have first := body_reads verbatim rules q t (h.trans (.of_part .choiceLeft))
      have second := body_reads verbatim rules s t (h.trans (.of_part .choiceRight))
      exact Run.Reads.onMismatch first fun _ => .onMismatch second fun _ => nofun
  | .map _ _, _, h => (verbatim _ h).elim
  | .tryMap _ _, _, h => (verbatim _ h).elim
  | .optional q, t, h => by
      refine .onMismatch (body_reads verbatim rules q t (h.trans (.of_part .optional))) ?_
      intro _ m hm
      cases hm
      exact .of_gap .nil t
  | .many q, t, h => by
      have element : ∀ u, ((q.body resolve u).asCall q u).Reads (b.Filler p) u := fun u =>
        body_reads verbatim rules q u (h.trans (.of_part .many))
      refine Run.Reads.repetition element fun rest u hu => ?_
      cases hu
      exact ⟨[], .nil, rfl⟩
  | .sepBy q sep, t, h => by
      have element : ∀ u, ((q.body resolve u).asCall q u).Reads (b.Filler p) u := fun u =>
        body_reads verbatim rules q u (h.trans (.of_part .sepBy))
      refine Run.Reads.onMismatch ?_ fun _ => nofun
      exact Run.Reads.repetition element fun _ _ => gap_of_elementAfter? h
  | .named q _, t, h => body_reads verbatim rules q t (h.trans (.of_part .named))

theorem resolve_reads (verbatim : ∀ q, b.Reaches p q → q.IsVerbatim) :
    ∀ (fuel : Nat) (r : Rule) (t : Text), b.Reaches p (.rule r) →
      (b.resolve fuel r t).Reads (b.Filler p) t
  | 0, _, _, _ => nofun
  | fuel + 1, r, t, h => by
      rw [resolve]
      cases hd : b.definition? r with
      | none => exact nofun
      | some d =>
          exact body_reads verbatim (resolve_reads verbatim fuel) d t (h.trans (.of_definition hd))

end RuleBook

/-- The text that a verbatim parser has read is the tokens that it puts out, in order, with gaps
between them. -/
theorem matched_woven {b : RuleBook M} {p : Parser M}
    (verbatim : ∀ q, b.Reaches p q → q.IsVerbatim) {fuel : Nat} {t : Text} {m : Match M}
    (h : (p.call (b.resolve fuel) t).outcome = .matched m) :
    ∃ c, t = c ++ m.rest ∧ Woven (b.Filler p) c m.output.tokens :=
  RuleBook.body_reads verbatim (RuleBook.resolve_reads verbatim fuel) p t (.refl p) m h

/-- One small letter or more at the start of the text. -/
def lowercase : Regex :=
  ⟨Regex.anchored "[a-z]+".toList,
    (Regex.Expr.seq (.look .textStart) (.times true 1 none (.set true (.range 'a' 'z')))).program⟩

/-- A word of small letters, or a list, which the rule stands for. -/
def wordOrList : Parser Unit :=
  .choice (.pattern "[a-z]+".toList lowercase) (.rule ⟨0, ['l']⟩)

/-- A list has words and lists in parentheses, with commas between. -/
def listBook : RuleBook Unit :=
  ⟨1, [(⟨0, ['l']⟩, .seq (.literal ['(']) (.seq (.sepBy wordOrList [',']) (.literal [')'])))]⟩

/-- Of `(ab, (c)) ,d,!` the last comma is left, since nothing follows that it could separate. -/
theorem matched_woven_nested_list :
    let p := Parser.sepBy wordOrList [',']
    ∃ m, listBook.parse p "(ab, (c)) ,d,!".toList = .matched m ∧
      m.output.tokens = [['a', 'b'], ['c'], ['d']] ∧ m.rest = [',', '!'] ∧
        ∃ c, "(ab, (c)) ,d,!".toList = c ++ m.rest ∧
          Woven (listBook.Filler p) c m.output.tokens := by
  intro p
  have anchored : lowercase.program.Anchored := rfl
  have verbatim : ∀ q ∈ wordOrList.parts, q.IsVerbatim := by
    intro q hq
    simp only [wordOrList, Parser.parts, List.singleton_append, List.mem_cons, List.not_mem_nil,
      or_false] at hq
    rcases hq with rfl | rfl | rfl
    · trivial
    · exact fun _ _ _ hfind => anchored.front hfind
    · trivial
  have reached : ∀ q, listBook.Reaches p q → q.IsVerbatim := by
    intro q hq
    refine hq.of_parts ?_ ?_
    · simpa [p, Parser.parts, Parser.IsVerbatim] using verbatim
    · simpa [listBook, Parser.parts, Parser.IsVerbatim, or_imp, forall_and] using verbatim
  have ends : (listBook.parse p "(ab, (c)) ,d,!".toList).match?.map
      (fun m => (m.output.tokens, m.rest)) = some ([['a', 'b'], ['c'], ['d']], [',', '!']) := by
    decide +kernel
  obtain ⟨m, hm, hends⟩ := Option.map_eq_some_iff.mp ends
  rw [Outcome.match?_eq_some_iff] at hm
  obtain ⟨htokens, hrest⟩ := Prod.mk.inj hends
  exact ⟨m, hm, htokens, hrest, matched_woven reached hm⟩

end Descent
